import OpenBic.Mctp.Flash
import OpenBic.Obmf.PageCache

/-!
# The host's flash cycles

`safs_isr` of `hal_edaf_npcm.c`, which takes flash cycles from the eSPI flash channel and answers
each with a completion in `resp_ioc`, and the four backends that a build can have: the local flash,
the memory device of OBMF, flash pages over MCTP, and PLDM to the BMC with a prefetch buffer. The
sizes and codes of the eSPI driver are parameters. A copy outside a buffer, and a wait that never
ends, come to nothing.
-/

namespace OpenBic.Hal.Edaf

open List Option Library.Machine Library.Checked
open Obmf (CachedDevice DeviceCall MemDevOp Try direct)
open Mctp.Flash (FlashCache FlashMsg)

def maxFlashAddr : Nat := 0x4000000

/-- What the header of the eSPI driver defines. -/
structure Espi where
  /-- The size of `pkt`. -/
  pktSize : Nat
  head : 4 ≤ pktSize
  bufSize : Nat
  respLen : UInt8
  sucCmplt : UInt8
  sucCmpltDOnly : UInt8
  unsucCmplt : UInt8
  distinct : unsucCmplt ≠ sucCmplt ∧ unsucCmplt ≠ sucCmpltDOnly
  eraseSize : Nat → Nat
  erase4K : Nat
  erase64K : Nat
  erases : eraseSize erase4K = 0x1000 ∧ eraseSize erase64K = 0x10000

/-- `cyc`. -/
inductive CycleType where
  | read
  | write
  | erase
  | other
deriving DecidableEq

/-- A cycle: `struct espi_flash_rwe`. -/
structure Cycle where
  cyc : CycleType
  tag : UInt8
  tagSmall : tag < 16
  /-- `len_h` and `len_l`. -/
  len : Nat
  lenSmall : len < 4096
  addr : Nat
  data : List UInt8
  carries : cyc = .write → data.length = len

/-- The bytes of a flash. -/
abbrev Content : Type := Nat → UInt8

def written (content : Content) (addr len : Nat) (data : List UInt8) : Content := fun place =>
  if addr ≤ place ∧ place < addr + len then data.getD (place - addr) 0 else content place

def erased (content : Content) (addr size : Nat) : Content := fun place =>
  if addr ≤ place ∧ place < addr + size then 0xFF else content place

def Cycle.performed (espi : Espi) (cycle : Cycle) (content : Content) : Content :=
  match cycle.cyc with
  | .read | .other => content
  | .write => written content cycle.addr cycle.len cycle.data
  | .erase => erased content cycle.addr (espi.eraseSize cycle.len)

/-- `resp_ioc.pkt`. -/
abbrev Packet (espi : Espi) : Type := Buffer espi.pktSize

def headed {espi : Espi} (pkt : Packet espi) (count kind tag len : UInt8) :
    Option (Packet espi) :=
  pkt.write 0 [count, kind, tag, len]

def plain {espi : Espi} (cycle : Cycle) (kind : UInt8) (pkt : Packet espi) :
    Option (Packet espi) :=
  headed pkt espi.respLen kind (cycle.tag <<< 4) 0

def dataHead {espi : Espi} (cycle : Cycle) (pkt : Packet espi) : Option (Packet espi) :=
  headed pkt (espi.respLen + UInt8.ofNat cycle.len) espi.sucCmpltDOnly
    (cycle.tag <<< 4 ||| (UInt8.ofNat (cycle.len / 256) &&& 0x0F)) (UInt8.ofNat cycle.len)

/-! ## The local flash -/

/-- How a call of the flash driver comes out. -/
inductive LocalOutcome where
  | ok
  | failed (left : List UInt8) (content : Content)

def Espi.eraseCase (espi : Espi) (len : Nat) : Option Nat :=
  if len = espi.erase4K then some 0x1000
  else if len = espi.erase64K then some 0x10000
  else none

def localFlash {espi : Espi} (content : Content) (outcome : LocalOutcome) (cycle : Cycle)
    (pkt : Packet espi) : Option (Content × Packet espi) := do
  let pkt ← plain cycle espi.sucCmplt pkt
  match cycle.cyc with
  | .read =>
    match outcome with
    | .ok =>
      let pkt ← pkt.write 4 (direct content cycle.addr cycle.len)
      let pkt ← dataHead cycle pkt
      some (content, pkt)
    | .failed left _ =>
      let pkt ← pkt.write 4 (left.take cycle.len)
      some (content, pkt)
  | .erase =>
    match espi.eraseCase cycle.len with
    | none =>
      let pkt ← plain cycle espi.unsucCmplt pkt
      some (content, pkt)
    | some size =>
      match outcome with
      | .ok => some (erased content cycle.addr size, pkt)
      | .failed _ content =>
        let pkt ← plain cycle espi.unsucCmplt pkt
        some (content, pkt)
  | .write =>
    match outcome with
    | .ok => some (written content cycle.addr cycle.len cycle.data, pkt)
    | .failed _ content =>
      let pkt ← plain cycle espi.unsucCmplt pkt
      some (content, pkt)
  | .other => some (content, pkt)

/-! ## The memory device of OBMF -/

/-- What decides how the memory device answers a cycle. -/
structure ObmfOutcome where
  enabled : Bool
  tries : Nat → Try

def ObmfOutcome.call (outcome : ObmfOutcome) (cycle : Cycle) (op : MemDevOp) : DeviceCall :=
  { op, data := fun index => cycle.data.getD index 0, tries := outcome.tries }

def obmfChange {espi : Espi} (device : CachedDevice) (call : DeviceCall) (cycle : Cycle)
    (pkt : Packet espi) : Option (CachedDevice × Packet espi) := do
  let (_, after) := device.callDevice call
  if device.changeReturns call then some (after, pkt)
  else
    let pkt ← plain cycle espi.unsucCmplt pkt
    some (after, pkt)

def obmf {espi : Espi} (device : CachedDevice) (outcome : ObmfOutcome) (cycle : Cycle)
    (pkt : Packet espi) : Option (CachedDevice × Packet espi) := do
  let pkt ← plain cycle espi.sucCmplt pkt
  if !outcome.enabled then
    let pkt ← plain cycle espi.unsucCmplt pkt
    some (device, pkt)
  else
    match cycle.cyc with
    | .read =>
      match device.callDevice (outcome.call cycle (.read cycle.addr cycle.len)) with
      | (none, after) =>
        let pkt ← plain cycle espi.unsucCmplt pkt
        some (after, pkt)
      | (some data, after) =>
        let pkt ← pkt.write 4 data
        let pkt ← dataHead cycle pkt
        some (after, pkt)
    | .write => obmfChange device (outcome.call cycle (.write cycle.addr cycle.len)) cycle pkt
    | .erase =>
      match espi.eraseCase cycle.len with
      | none =>
        let pkt ← plain cycle espi.unsucCmplt pkt
        some (device, pkt)
      | some size => obmfChange device (outcome.call cycle (.erase cycle.addr size)) cycle pkt
    | .other =>
      let pkt ← plain cycle espi.unsucCmplt pkt
      some (device, pkt)

/-! ## Flash pages over MCTP -/

/-- The flash behind MCTP. -/
structure MctpFlash where
  content : Content
  cache : FlashCache

/-- What happens while a cycle is served over MCTP. -/
structure MctpOutcome where
  malloc : Bool
  arrivals : Nat → List FlashMsg
  content : Content

def mctpFlash {espi : Espi} (flash : MctpFlash) (outcome : MctpOutcome) (cycle : Cycle)
    (pkt : Packet espi) : Option (MctpFlash × Packet espi) := do
  let pkt ← plain cycle espi.sucCmplt pkt
  match cycle.cyc with
  | .read =>
    let (data, cache) ← flash.cache.read cycle.addr cycle.len outcome.arrivals
    let pkt ← pkt.write 4 (data.getD [])
    let pkt ← dataHead cycle pkt
    some ({ flash with cache }, pkt)
  | .write =>
    let cache ← flash.cache.write cycle.addr cycle.len outcome.malloc (outcome.arrivals 0)
    some ({ content := outcome.content, cache }, pkt)
  | .erase =>
    let cache ← flash.cache.erase cycle.addr cycle.len (outcome.arrivals 0)
    some ({ content := outcome.content, cache }, pkt)
  | .other =>
    let pkt ← plain cycle espi.unsucCmplt pkt
    some (flash, pkt)

/-! ## PLDM to the BMC -/

/-- A `pldm_oem_meta_write_file_resp` that reports success. -/
structure PldmResp (espi : Espi) where
  pkgLen : UInt8
  ctype : UInt8
  tagLenH : UInt8
  lenL : UInt8
  /-- `data`, as far as the receive buffer goes. -/
  data : Buffer espi.bufSize

/-- The bytes from `ctype` on. -/
def PldmResp.packet {espi : Espi} (resp : PldmResp espi) : List UInt8 :=
  [resp.ctype, resp.tagLenH, resp.lenL] ++ resp.data.bytes

/-- How a request to the BMC comes out, with what a write or an erase leaves in the flash. -/
inductive PldmOutcome (espi : Espi) where
  | failed (content : Content)
  | answered (resp : PldmResp espi) (content : Content)

def PldmOutcome.content {espi : Espi} : PldmOutcome espi → Content
  | .failed content => content
  | .answered _ content => content

/-- The flash behind PLDM. -/
structure PldmFlash (espi : Espi) where
  content : Content
  prefetch : Bool
  prefetchAddr : Nat
  prefetchLen : Nat
  prefetchBuf : Buffer espi.bufSize
  /-- The request that set `prefetch_addr` has filled the buffer; the source keeps no such flag. -/
  filled : Bool

def pldmSendFlashrxToBmc {espi : Espi} (flash : PldmFlash espi) (outcome : PldmOutcome espi)
    (pkt : Packet espi) : Option (Bool × PldmFlash espi × Packet espi) :=
  match outcome with
  | .failed _ => some (false, flash, pkt)
  | .answered resp _ =>
    if flash.prefetch then some (true, { flash with prefetchBuf := resp.data, filled := true }, pkt)
    else do
      let pkt ← pkt.write 0 [resp.pkgLen]
      let bytes ← rangeAt resp.packet 0 resp.pkgLen.toNat
      let pkt ← pkt.write 1 bytes
      some (true, flash, pkt)

def PldmFlash.later {espi : Espi} (flash : PldmFlash espi) (cycle : Cycle) : Bool :=
  flash.prefetch && cycle.cyc = .read && cycle.addr < flash.prefetchAddr

def PldmFlash.serves {espi : Espi} (flash : PldmFlash espi) (cycle : Cycle) : Bool :=
  flash.prefetch && cycle.cyc = .read && !flash.later cycle &&
    (cycle.addr + cycle.len) % 2 ^ 32 ≤ (flash.prefetchAddr + flash.prefetchLen) % 2 ^ 32

/-- `prefetch_len` for a read. -/
def prefetchLenOf (espi : Espi) (cycle : Cycle) : Nat :=
  if maxFlashAddr < (cycle.addr + espi.bufSize) % 2 ^ 32 then cycle.len else espi.bufSize

def PldmFlash.requested {espi : Espi} (flash : PldmFlash espi) (cycle : Cycle) : PldmFlash espi :=
  if cycle.cyc = .read then
    { flash with
      prefetch := true, prefetchAddr := cycle.addr, prefetchLen := prefetchLenOf espi cycle,
      filled := false }
  else { flash with prefetch := false }

def prefetchHead {espi : Espi} (cycle : Cycle) (pkt : Packet espi) : Option (Packet espi) :=
  headed pkt (espi.respLen + UInt8.ofNat cycle.len) espi.sucCmpltDOnly (cycle.tag <<< 4)
    (UInt8.ofNat cycle.len)

def PldmFlash.copied {espi : Espi} (flash : PldmFlash espi) (cycle : Cycle) (pkt : Packet espi) :
    Option (Packet espi) := do
  let data ← flash.prefetchBuf.read (cycle.addr - flash.prefetchAddr) cycle.len
  pkt.write 4 data

def pldmFlash {espi : Espi} (flash : PldmFlash espi) (outcome : PldmOutcome espi) (cycle : Cycle)
    (pkt : Packet espi) : Option (PldmFlash espi × Packet espi) := do
  let pkt ← plain cycle espi.sucCmplt pkt
  if flash.serves cycle then
    let pkt ← prefetchHead cycle pkt
    let pkt ← flash.copied cycle pkt
    some (flash, pkt)
  else
    let pkt ← plain cycle espi.unsucCmplt pkt
    let (sent, flash, pkt) ← pldmSendFlashrxToBmc (flash.requested cycle) outcome pkt
    if cycle.cyc = .read then
      if sent then
        let pkt ← prefetchHead cycle pkt
        let pkt ← flash.copied cycle pkt
        some (flash, pkt)
      else some (flash, pkt)
    else
      let flash := { flash with content := outcome.content }
      if sent then
        let pkt ← pkt.write 3 [UInt8.ofNat cycle.len]
        let pkt ← pkt.write 1 [espi.sucCmplt]
        some (flash, pkt)
      else some (flash, pkt)

/-! ## The service -/

/-- The backend of a build. -/
inductive Backend (espi : Espi) where
  | localFlash (content : Content)
  | obmf (device : CachedDevice)
  | mctp (flash : MctpFlash)
  | pldm (flash : PldmFlash espi)

/-- What decides how a backend serves a cycle. -/
inductive Outcome (espi : Espi) where
  | localFlash (outcome : LocalOutcome)
  | obmf (outcome : ObmfOutcome)
  | mctp (outcome : MctpOutcome)
  | pldm (outcome : PldmOutcome espi)

variable {espi : Espi}

def Backend.content : Backend espi → Content
  | .localFlash content => content
  | .obmf device => device.content
  | .mctp flash => flash.content
  | .pldm flash => flash.content

def Backend.serve (backend : Backend espi) (outcome : Outcome espi) (cycle : Cycle)
    (pkt : Packet espi) : Option (Backend espi × Packet espi) :=
  match backend, outcome with
  | .localFlash content, .localFlash outcome => do
    let (content, pkt) ← Edaf.localFlash content outcome cycle pkt
    some (.localFlash content, pkt)
  | .obmf device, .obmf outcome => do
    let (device, pkt) ← Edaf.obmf device outcome cycle pkt
    some (.obmf device, pkt)
  | .mctp flash, .mctp outcome => do
    let (flash, pkt) ← mctpFlash flash outcome cycle pkt
    some (.mctp flash, pkt)
  | .pldm flash, .pldm outcome => do
    let (flash, pkt) ← pldmFlash flash outcome cycle pkt
    some (.pldm flash, pkt)
  | _, _ => none

/-- A completion, given to `espi_npcm4xx_flash_put_tx`. -/
structure Completion (espi : Espi) where
  cycle : Cycle
  before : Content
  after : Content
  pkt : Packet espi

/-- The thread: its backend, its packet, and the cycles that it has completed. -/
structure Service (espi : Espi) where
  backend : Backend espi
  pkt : Packet espi
  completions : List (Completion espi)

def Service.start (backend : Backend espi) : Service espi :=
  { backend, pkt := Buffer.zero espi.pktSize, completions := [] }

/-- A round of the loop of `safs_isr`. -/
def Service.step (service : Service espi) (event : Cycle × Outcome espi) :
    Option (Service espi) := do
  let (backend, pkt) ← service.backend.serve event.2 event.1 service.pkt
  some
    { backend, pkt
      completions := service.completions ++
        [{ cycle := event.1, before := service.backend.content, after := backend.content, pkt }] }

/-! ## What the host is to be told -/

def Completion.byte (completion : Completion espi) (index : Nat) : UInt8 :=
  completion.pkt.bytes.getD index 0

/-- The host is told of a success. -/
def Completion.Succeeds (completion : Completion espi) : Prop :=
  completion.byte 1 = espi.sucCmplt ∨ completion.byte 1 = espi.sucCmpltDOnly

/-- A completion carries the bytes that its cycle reads, exactly. -/
structure Completion.Carries (completion : Completion espi) : Prop where
  kind : completion.byte 1 = espi.sucCmpltDOnly
  count : (completion.byte 0).toNat = espi.respLen.toNat + completion.cycle.len
  len : (completion.byte 2 &&& 0x0F).toNat * 256 + (completion.byte 3).toNat = completion.cycle.len
  data : (completion.pkt.bytes.drop 4).take completion.cycle.len =
    direct completion.before completion.cycle.addr completion.cycle.len

/-- A completion tells the truth. -/
structure Completion.Truthful (completion : Completion espi) : Prop where
  tag : completion.byte 2 >>> 4 = completion.cycle.tag
  performed : completion.cycle.cyc ≠ .other → completion.Succeeds →
    completion.after = completion.cycle.performed espi completion.before
  carries : completion.cycle.cyc = .read → completion.Succeeds → completion.Carries

/-- Each completion begins with what the one before left. -/
def Follows : Content → List (Completion espi) → Content → Prop
  | start, [], finish => finish = start
  | start, completion :: rest, finish =>
    completion.before = start ∧ Follows completion.after rest finish

/-! ## When it is told that -/

/-- The response to a cycle fits its packet and its length. -/
def Fits (espi : Espi) (cycle : Cycle) : Prop :=
  4 + cycle.len ≤ espi.pktSize ∧ espi.respLen.toNat + cycle.len < 256

/-- The condition on the local flash. -/
def LocalOutcome.Sound (espi : Espi) (outcome : LocalOutcome) (cycle : Cycle) : Prop :=
  cycle.cyc = .read → outcome = .ok ∧ Fits espi cycle

/-- The memory device: a read fits, and its page cache is in the conditions of its own. -/
structure ObmfOutcome.Sound (espi : Espi) (device : CachedDevice) (outcome : ObmfOutcome)
    (cycle : Cycle) : Prop where
  fits : cycle.cyc = .read → Fits espi cycle
  read : cycle.cyc = .read → device.Settled (outcome.call cycle (.read cycle.addr cycle.len))
  write : cycle.cyc = .write → device.Settled (outcome.call cycle (.write cycle.addr cycle.len))
  erase : cycle.cyc = .erase → ∀ size, espi.eraseCase cycle.len = some size →
    device.Settled (outcome.call cycle (.erase cycle.addr size))

/-- MCTP: a request is made and carried out, a message arrives for it, and the pages that arrive
are those of the flash. -/
structure MctpOutcome.Sound (espi : Espi) (flash : MctpFlash) (outcome : MctpOutcome)
    (cycle : Cycle) : Prop where
  read : cycle.cyc = .read → Fits espi cycle ∧ cycle.len ≤ Mctp.Flash.pageSize ∧
    cycle.addr + cycle.len < 2 ^ 32 ∧
    (∀ wait, ∀ msg ∈ outcome.arrivals wait, msg.Sound flash.content) ∧
    ((∃ page ∈ flash.cache.pages, page.covers cycle.addr cycle.len = true) ∨
      Mctp.Flash.Brought outcome.arrivals cycle.addr cycle.len 0 10)
  write : cycle.cyc = .write → outcome.malloc = true ∧ cycle.addr + cycle.len < 2 ^ 32
  erase : cycle.cyc = .erase → cycle.len ≤ 3 ∧
    espi.eraseSize cycle.len ≤ Mctp.Flash.eraseSize cycle.len ∧
    cycle.addr + Mctp.Flash.eraseSize cycle.len < 2 ^ 32
  change : cycle.cyc = .write ∨ cycle.cyc = .erase →
    outcome.content = cycle.performed espi flash.content ∧ outcome.arrivals 0 ≠ [] ∧
      ∀ msg ∈ outcome.arrivals 0, msg.Sound outcome.content

/-- PLDM: a read fits and is not served from a buffer that was not filled, and an answer of success
is one to the cycle. -/
structure PldmOutcome.Sound (flash : PldmFlash espi) (outcome : PldmOutcome espi)
    (cycle : Cycle) : Prop where
  read : cycle.cyc = .read → Fits espi cycle ∧ cycle.len < 256 ∧ cycle.addr + cycle.len < 2 ^ 32
  served : flash.serves cycle = true → flash.filled = true
  fills : ∀ resp content, outcome = .answered resp content → cycle.cyc = .read →
    flash.serves cycle = false → cycle.len ≤ prefetchLenOf espi cycle ∧
      prefetchLenOf espi cycle ≤ espi.bufSize ∧
      cycle.addr + prefetchLenOf espi cycle < 2 ^ 32 ∧
      ∀ index < prefetchLenOf espi cycle,
        resp.data.bytes.getD index 0 = flash.content (cycle.addr + index)
  answers : ∀ resp content, outcome = .answered resp content → cycle.cyc ≠ .read →
    1 + resp.pkgLen.toNat ≤ espi.pktSize ∧ resp.pkgLen.toNat ≤ 3 + espi.bufSize ∧
      (2 ≤ resp.pkgLen.toNat → resp.tagLenH >>> 4 = cycle.tag)
  change : ∀ resp content, outcome = .answered resp content →
    cycle.cyc = .write ∨ cycle.cyc = .erase → content = cycle.performed espi flash.content

/-- The condition on a cycle. -/
def Sound (service : Service espi) (event : Cycle × Outcome espi) : Prop :=
  match service.backend, event.2 with
  | .localFlash _, .localFlash outcome => outcome.Sound espi event.1
  | .obmf device, .obmf outcome => outcome.Sound espi device event.1
  | .mctp flash, .mctp outcome => outcome.Sound espi flash event.1
  | .pldm flash, .pldm outcome => outcome.Sound flash event.1
  | _, _ => False

/-! ## Packets -/

/-- The first four bytes of a packet. -/
structure Headed (pkt : Packet espi) (count kind tag len : UInt8) : Prop where
  count : pkt.bytes.getD 0 0 = count
  kind : pkt.bytes.getD 1 0 = kind
  tag : pkt.bytes.getD 2 0 = tag
  len : pkt.bytes.getD 3 0 = len

theorem headed_eq (pkt : Packet espi) (count kind tag len : UInt8) :
    ∃ after, headed pkt count kind tag len = some after ∧ Headed after count kind tag len ∧
      after.bytes.drop 4 = pkt.bytes.drop 4 := by
  have head := espi.head
  obtain ⟨after, wrote, bytes⟩ :=
    pkt.write_eq [count, kind, tag, len] (show 0 + 4 ≤ espi.pktSize by omega)
  have inside : 0 + [count, kind, tag, len].length ≤ pkt.bytes.length := by
    rw [pkt.sized]
    exact head
  refine ⟨after, wrote, ⟨?_, ?_, ?_, ?_⟩, ?_⟩
  · rw [bytes, getD_splice inside]
    rfl
  · rw [bytes, getD_splice inside]
    rfl
  · rw [bytes, getD_splice inside]
    rfl
  · rw [bytes, getD_splice inside]
    rfl
  · rw [bytes]
    exact drop_splice inside (show 0 + 4 ≤ 4 by decide)

variable {data : List UInt8} {cycle : Cycle} {device : CachedDevice}

theorem Headed.write {pkt after : Packet espi} {count kind tag len : UInt8}
    (headed : Headed pkt count kind tag len) (wrote : pkt.write 4 data = some after) :
    Headed after count kind tag len := by
  obtain ⟨inside, bytes⟩ := Buffer.write_some wrote
  rw [← pkt.sized] at inside
  have kept : ∀ index < 4, after.bytes.getD index 0 = pkt.bytes.getD index 0 := by
    intro index early
    rw [bytes, getD_splice inside, if_neg (by omega)]
  exact ⟨(kept 0 (by decide)).trans headed.count, (kept 1 (by decide)).trans headed.kind,
    (kept 2 (by decide)).trans headed.tag, (kept 3 (by decide)).trans headed.len⟩

theorem nibble_lt (byte : UInt8) : byte &&& 0x0F < 16 := by
  have all : ∀ byte : Fin 256, UInt8.ofFin byte &&& 0x0F < 16 := by
    decide +kernel
  exact all byte.toFin

theorem nibbles_joined {high low : UInt8} (small : high < 16) (short : low < 16) :
    (high <<< 4 ||| low) >>> 4 = high ∧ (high <<< 4 ||| low) &&& 0x0F = low := by
  have all : ∀ high low : Fin 16,
      (UInt8.ofNat high <<< 4 ||| UInt8.ofNat low) >>> 4 = UInt8.ofNat high ∧
        (UInt8.ofNat high <<< 4 ||| UInt8.ofNat low) &&& 0x0F = UInt8.ofNat low := by
    decide +kernel
  have both := all ⟨high.toNat, UInt8.lt_iff_toNat_lt.mp small⟩
    ⟨low.toNat, UInt8.lt_iff_toNat_lt.mp short⟩
  simpa only [UInt8.ofNat_toNat] using both

theorem tag_shift (tag high : UInt8) (small : tag < 16) :
    (tag <<< 4 ||| (high &&& 0x0F)) >>> 4 = tag ∧
      (tag <<< 4 ||| (high &&& 0x0F)) &&& 0x0F = high &&& 0x0F :=
  nibbles_joined small (nibble_lt high)

theorem tag_shift_zero (tag : UInt8) (small : tag < 16) :
    (tag <<< 4) >>> 4 = tag ∧ (tag <<< 4) &&& 0x0F = 0 := by
  have both := tag_shift tag 0 small
  simpa using both

theorem len_bits {len : Nat} (small : len < 4096) :
    (UInt8.ofNat (len / 256) &&& 0x0F).toNat * 256 + (UInt8.ofNat len).toNat = len := by
  have high : (UInt8.ofNat (len / 256) &&& 0x0F).toNat = len / 256 := by
    have mask : len / 256 % 2 ^ 8 &&& 15 = len / 256 % 2 ^ 8 % 2 ^ 4 :=
      Nat.and_two_pow_sub_one_eq_mod _ 4
    exact mask.trans (by omega)
  rw [high, UInt8.toNat_ofNat']
  omega

theorem truthful_failed {completion : Completion espi} {count len : UInt8}
    (headed : Headed completion.pkt count espi.unsucCmplt (completion.cycle.tag <<< 4) len) :
    completion.Truthful := by
  have kind : completion.byte 1 = espi.unsucCmplt := headed.kind
  have fails : ¬ completion.Succeeds := by
    rintro (plain | data)
    · exact espi.distinct.1 (kind.symm.trans plain)
    · exact espi.distinct.2 (kind.symm.trans data)
  refine ⟨?_, fun _ succeeds => absurd succeeds fails, fun _ succeeds => absurd succeeds fails⟩
  show completion.pkt.bytes.getD 2 0 >>> 4 = completion.cycle.tag
  rw [headed.tag]
  exact (tag_shift_zero _ completion.cycle.tagSmall).1

theorem truthful_changed {completion : Completion espi} {count kind tag len : UInt8}
    (headed : Headed completion.pkt count kind tag len) (own : tag >>> 4 = completion.cycle.tag)
    (changes : completion.cycle.cyc ≠ .read)
    (performed : completion.cycle.cyc ≠ .other →
      completion.after = completion.cycle.performed espi completion.before) :
    completion.Truthful := by
  refine ⟨?_, fun known _ => performed known, fun reads => absurd reads changes⟩
  show completion.pkt.bytes.getD 2 0 >>> 4 = completion.cycle.tag
  rw [headed.tag]
  exact own

theorem count_bits (fits : Fits espi cycle) :
    (espi.respLen + UInt8.ofNat cycle.len).toNat = espi.respLen.toNat + cycle.len := by
  have small := fits.2
  rw [UInt8.toNat_add, UInt8.toNat_ofNat']
  omega

theorem truthful_read {completion : Completion espi} {tag len : UInt8}
    (headed : Headed completion.pkt (espi.respLen + UInt8.ofNat completion.cycle.len)
      espi.sucCmpltDOnly tag len)
    (own : tag >>> 4 = completion.cycle.tag)
    (length : (tag &&& 0x0F).toNat * 256 + len.toNat = completion.cycle.len)
    (fits : Fits espi completion.cycle) (same : completion.after = completion.before)
    (data : (completion.pkt.bytes.drop 4).take completion.cycle.len =
      direct completion.before completion.cycle.addr completion.cycle.len)
    (reads : completion.cycle.cyc = .read) : completion.Truthful := by
  refine ⟨?_, fun _ _ => ?_, fun _ _ => ⟨headed.kind, ?_, ?_, data⟩⟩
  · show completion.pkt.bytes.getD 2 0 >>> 4 = completion.cycle.tag
    rw [headed.tag]
    exact own
  · rw [same, Cycle.performed, reads]
  · show (completion.pkt.bytes.getD 0 0).toNat = _
    rw [headed.count, count_bits fits]
  · show (completion.pkt.bytes.getD 2 0 &&& 0x0F).toNat * 256 +
      (completion.pkt.bytes.getD 3 0).toNat = _
    rw [headed.tag, headed.len]
    exact length

theorem plain_eq (cycle : Cycle) (kind : UInt8) (pkt : Packet espi) :
    ∃ after, plain cycle kind pkt = some after ∧
      Headed after espi.respLen kind (cycle.tag <<< 4) 0 := by
  obtain ⟨after, set, headed, -⟩ := headed_eq pkt espi.respLen kind (cycle.tag <<< 4) 0
  exact ⟨after, set, headed⟩

theorem data_headed (pkt : Packet espi) (count kind tag len : UInt8)
    (room : 4 + data.length ≤ espi.pktSize) : ∃ filled after, pkt.write 4 data = some filled ∧
      headed filled count kind tag len = some after ∧ Headed after count kind tag len ∧
      (after.bytes.drop 4).take data.length = data := by
  obtain ⟨filled, wrote, -⟩ := pkt.write_eq data room
  obtain ⟨after, set, headed, behind⟩ := headed_eq filled count kind tag len
  refine ⟨filled, after, wrote, set, headed, ?_⟩
  rw [behind]
  exact Buffer.take_drop_write wrote

theorem length_direct (content : Content) (addr len : Nat) :
    (direct content addr len).length = len := by
  rw [direct, length_map, length_range]

theorem truthful_dataHead (content : Content) (pkt : Packet espi)
    (reads : cycle.cyc = .read) (fits : Fits espi cycle) :
    ∃ filled after, pkt.write 4 (direct content cycle.addr cycle.len) = some filled ∧
      dataHead cycle filled = some after ∧
      (Completion.mk cycle content content after).Truthful := by
  have length := length_direct content cycle.addr cycle.len
  obtain ⟨own, high⟩ := tag_shift cycle.tag (UInt8.ofNat (cycle.len / 256)) cycle.tagSmall
  obtain ⟨filled, after, wrote, set, headed, data⟩ :=
    data_headed pkt (espi.respLen + UInt8.ofNat cycle.len) espi.sucCmpltDOnly
      (cycle.tag <<< 4 ||| (UInt8.ofNat (cycle.len / 256) &&& 0x0F)) (UInt8.ofNat cycle.len)
      (show 4 + (direct content cycle.addr cycle.len).length ≤ _ by rw [length]; exact fits.1)
  refine ⟨filled, after, wrote, set, truthful_read headed own ?_ fits rfl ?_ reads⟩
  · rw [high]
    exact len_bits cycle.lenSmall
  · rw [length] at data
    exact data

/-! ## The backends -/

theorem eraseSize_of_eraseCase {len size : Nat} (case : espi.eraseCase len = some size) :
    espi.eraseSize len = size := by
  unfold Espi.eraseCase at case
  split at case
  · rename_i is4K
    rw [is4K, espi.erases.1]
    exact Option.some.inj case
  split at case
  · rename_i is64K
    rw [is64K, espi.erases.2]
    exact Option.some.inj case
  · cases case

theorem localFlash_sound (content : Content) {outcome : LocalOutcome}
    (pkt : Packet espi) (sound : outcome.Sound espi cycle) :
    ∃ after answer, localFlash content outcome cycle pkt = some (after, answer) ∧
      (Completion.mk cycle content after answer).Truthful := by
  obtain ⟨started, set, headed⟩ := plain_eq cycle espi.sucCmplt pkt
  obtain ⟨failed, fails, failedHead⟩ := plain_eq cycle espi.unsucCmplt started
  have own := (tag_shift_zero cycle.tag cycle.tagSmall).1
  unfold localFlash
  rw [set, bind_eq_bind, bind_some]
  cases cyc : cycle.cyc with
  | read =>
    obtain ⟨rfl, fits⟩ := sound cyc
    obtain ⟨filled, after, wrote, dataSet, truthful⟩ :=
      truthful_dataHead content started cyc fits
    refine ⟨content, after, ?_, truthful⟩
    simp only [wrote, dataSet, bind_some]
  | write =>
    cases outcome with
    | ok =>
      refine ⟨written content cycle.addr cycle.len cycle.data, started, rfl,
        truthful_changed headed own ?_ fun _ => ?_⟩
      · exact fun reads => absurd (cyc.symm.trans reads) (by simp)
      · simp only [Cycle.performed, cyc]
    | failed left content' =>
      refine ⟨content', failed, ?_, truthful_failed failedHead⟩
      simp only [fails, bind_some]
  | erase =>
    cases case : espi.eraseCase cycle.len with
    | none =>
      refine ⟨content, failed, ?_, truthful_failed failedHead⟩
      simp only [fails, bind_some]
    | some size =>
      cases outcome with
      | ok =>
        refine ⟨erased content cycle.addr size, started, rfl,
          truthful_changed headed own ?_ fun _ => ?_⟩
        · exact fun reads => absurd (cyc.symm.trans reads) (by simp)
        · simp only [Cycle.performed, cyc, eraseSize_of_eraseCase case]
      | failed left content' =>
        refine ⟨content', failed, ?_, truthful_failed failedHead⟩
        simp only [fails, bind_some]
  | other =>
    refine ⟨content, started, rfl, truthful_changed headed own ?_ fun known => absurd cyc known⟩
    exact fun reads => absurd (cyc.symm.trans reads) (by simp)

theorem not_read {kind : CycleType} (cyc : cycle.cyc = kind)
    (other : kind ≠ .read) : cycle.cyc ≠ .read := by
  rw [cyc]
  exact other

theorem callDevice_coherent {call : DeviceCall}
    (coherent : Obmf.Coherent device.content device.pages) (settled : device.Settled call) :
    Obmf.Coherent (device.callDevice call).2.content (device.callDevice call).2.pages :=
  CachedDevice.coherent_step coherent settled rfl

theorem obmfChange_sound {call : DeviceCall} {addr size : Nat} {started : Packet espi}
    (headed : Headed started espi.respLen espi.sucCmplt (cycle.tag <<< 4) 0)
    (coherent : Obmf.Coherent device.content device.pages) (settled : device.Settled call)
    (changes : call.op.Changes addr size) (cyc : cycle.cyc ≠ .read)
    (performed : call.apply device.content = cycle.performed espi device.content) :
    ∃ after answer, obmfChange device call cycle started = some (after, answer) ∧
      Obmf.Coherent after.content after.pages ∧
      (Completion.mk cycle device.content after.content answer).Truthful := by
  have own := (tag_shift_zero cycle.tag cycle.tagSmall).1
  have kept := callDevice_coherent coherent settled
  unfold obmfChange
  by_cases returns : device.changeReturns call = true
  · refine ⟨(device.callDevice call).2, started, ?_, kept,
      truthful_changed headed own cyc fun _ => ?_⟩
    · simp only [returns, if_true]
    · exact (CachedDevice.content_of_changeReturns changes settled returns).trans performed
  · obtain ⟨failed, fails, failedHead⟩ := plain_eq cycle espi.unsucCmplt started
    refine ⟨(device.callDevice call).2, failed, ?_, kept, truthful_failed failedHead⟩
    simp only [returns, fails, Bool.false_eq_true, if_false, bind_eq_bind,
      bind_some]

theorem obmf_sound {outcome : ObmfOutcome}
    (pkt : Packet espi) (coherent : Obmf.Coherent device.content device.pages)
    (sound : outcome.Sound espi device cycle) :
    ∃ after answer, obmf device outcome cycle pkt = some (after, answer) ∧
      Obmf.Coherent after.content after.pages ∧
      (Completion.mk cycle device.content after.content answer).Truthful := by
  obtain ⟨started, set, headed⟩ := plain_eq cycle espi.sucCmplt pkt
  obtain ⟨failed, fails, failedHead⟩ := plain_eq cycle espi.unsucCmplt started
  unfold obmf
  rw [set, bind_eq_bind, bind_some]
  by_cases enabled : outcome.enabled = true
  · rw [if_neg (by simp [enabled])]
    cases cyc : cycle.cyc with
    | read =>
      have settled := sound.read cyc
      have kept := callDevice_coherent coherent settled
      have same : (device.callDevice (outcome.call cycle (.read cycle.addr cycle.len))).2.content =
          device.content :=
        CachedDevice.content_of_read rfl coherent settled
      have read := (CachedDevice.truthful_step coherent settled rfl).1
      cases ran : device.callDevice (outcome.call cycle (.read cycle.addr cycle.len)) with
      | mk data after =>
        rw [ran] at kept same
        cases data with
        | none =>
          refine ⟨after, failed, ?_, kept, truthful_failed failedHead⟩
          simp only [fails, bind_some]
        | some data =>
          obtain rfl := read data (by rw [ran])
          obtain ⟨filled, answer, wrote, dataSet, truthful⟩ :=
            truthful_dataHead device.content started cyc (sound.fits cyc)
          refine ⟨after, answer, ?_, kept, ?_⟩
          · simp only [wrote, dataSet, bind_some]
          · rw [same]
            exact truthful
    | write =>
      apply obmfChange_sound headed coherent (sound.write cyc) (.write _ _)
        (not_read cyc (by decide))
      funext place
      simp only [Cycle.performed, cyc, DeviceCall.apply, ObmfOutcome.call, written]
      rw [Nat.mod_eq_of_lt (by have small := cycle.lenSmall; omega)]
    | erase =>
      cases case : espi.eraseCase cycle.len with
      | none =>
        refine ⟨device, failed, ?_, coherent, truthful_failed failedHead⟩
        simp only [fails, bind_some]
      | some size =>
        apply obmfChange_sound headed coherent (sound.erase cyc size case) (.erase _ _)
          (not_read cyc (by decide))
        funext place
        simp only [Cycle.performed, cyc, DeviceCall.apply, ObmfOutcome.call, erased,
          eraseSize_of_eraseCase case]
    | other =>
      refine ⟨device, failed, ?_, coherent, truthful_failed failedHead⟩
      simp only [fails, bind_some]
  · refine ⟨device, failed, ?_, coherent, truthful_failed failedHead⟩
    simp only [enabled, fails, bind_some, if_true, Bool.not_false]

theorem written_outside {content : Content} {addr len place : Nat}
    (outside : place < addr ∨ addr + len ≤ place) :
    written content addr len data place = content place :=
  if_neg (by omega)

theorem erased_outside {content : Content} {addr size place : Nat}
    (outside : place < addr ∨ addr + size ≤ place) :
    erased content addr size place = content place :=
  if_neg (by omega)

theorem mctpFlash_sound {flash : MctpFlash} {outcome : MctpOutcome}
    (pkt : Packet espi) (coherent : Mctp.Flash.Coherent flash.content flash.cache.pages)
    (sound : outcome.Sound espi flash cycle) :
    ∃ after answer, mctpFlash flash outcome cycle pkt = some (after, answer) ∧
      Mctp.Flash.Coherent after.content after.cache.pages ∧
      (Completion.mk cycle flash.content after.content answer).Truthful := by
  obtain ⟨started, set, headed⟩ := plain_eq cycle espi.sucCmplt pkt
  have own := (tag_shift_zero cycle.tag cycle.tagSmall).1
  unfold mctpFlash
  rw [set, bind_eq_bind, bind_some]
  cases cyc : cycle.cyc with
  | read =>
    obtain ⟨fits, small, bounded, arrive, brought⟩ := sound.read cyc
    obtain ⟨cache, ran, kept⟩ := Mctp.Flash.read_sound coherent small bounded arrive brought
    obtain ⟨filled, answer, wrote, dataSet, truthful⟩ :=
      truthful_dataHead flash.content started cyc fits
    refine ⟨{ flash with cache }, answer, ?_, kept, truthful⟩
    have copies : started.write 4 ((some ((List.range cycle.len).map fun index =>
        flash.content (cycle.addr + index))).getD []) = some filled := wrote
    simp only [ran, copies, dataSet, bind_eq_bind, bind_some]
  | write =>
    obtain ⟨malloc, bounded⟩ := sound.write cyc
    obtain ⟨carried, arrive, sounds⟩ := sound.change (.inl cyc)
    have made : outcome.content = written flash.content cycle.addr cycle.len cycle.data := by
      rw [carried, Cycle.performed, cyc]
    have outside : ∀ place, place < cycle.addr ∨ cycle.addr + cycle.len ≤ place →
        outcome.content place = flash.content place := by
      intro place apart
      rw [made]
      exact written_outside apart
    obtain ⟨cache, ran, kept⟩ := Mctp.Flash.write_sound coherent bounded outside sounds arrive
    refine ⟨{ content := outcome.content, cache }, started, ?_, kept,
      truthful_changed headed own (not_read cyc (by decide)) fun _ => carried⟩
    simp only [malloc, ran, bind_eq_bind, bind_some]
  | erase =>
    obtain ⟨valid, smaller, bounded⟩ := sound.erase cyc
    obtain ⟨carried, arrive, sounds⟩ := sound.change (.inr cyc)
    have made : outcome.content =
        erased flash.content cycle.addr (espi.eraseSize cycle.len) := by
      rw [carried, Cycle.performed, cyc]
    have outside : ∀ place,
        place < cycle.addr ∨ cycle.addr + Mctp.Flash.eraseSize cycle.len ≤ place →
        outcome.content place = flash.content place := by
      intro place apart
      rw [made]
      exact erased_outside (by omega)
    obtain ⟨cache, ran, kept⟩ :=
      Mctp.Flash.erase_sound coherent valid bounded outside sounds arrive
    refine ⟨{ content := outcome.content, cache }, started, ?_, kept,
      truthful_changed headed own (not_read cyc (by decide)) fun _ => carried⟩
    simp only [ran, bind_eq_bind, bind_some]
  | other =>
    obtain ⟨failed, fails, failedHead⟩ := plain_eq cycle espi.unsucCmplt started
    refine ⟨flash, failed, ?_, coherent, truthful_failed failedHead⟩
    simp only [fails, bind_some]

/-- A prefetch buffer that was filled holds the bytes of the flash. -/
structure Prefetched (flash : PldmFlash espi) : Prop where
  small : flash.prefetch = true → flash.filled = true → flash.prefetchLen ≤ espi.bufSize
  bounded : flash.prefetch = true → flash.filled = true →
    flash.prefetchAddr + flash.prefetchLen < 2 ^ 32
  bytes : flash.prefetch = true → flash.filled = true → ∀ index < flash.prefetchLen,
    flash.prefetchBuf.bytes.getD index 0 = flash.content (flash.prefetchAddr + index)

/-- A read answered from a buffer that holds the bytes of the flash. -/
theorem copied_truthful {flash : PldmFlash espi} (pkt : Packet espi)
    (prefetched : Prefetched flash) (set : flash.prefetch = true) (filled : flash.filled = true)
    (above : flash.prefetchAddr ≤ cycle.addr)
    (below : cycle.addr + cycle.len ≤ flash.prefetchAddr + flash.prefetchLen)
    (reads : cycle.cyc = .read) (fits : Fits espi cycle) (short : cycle.len < 256) :
    ∃ head answer, prefetchHead cycle pkt = some head ∧ flash.copied cycle head = some answer ∧
      (Completion.mk cycle flash.content flash.content answer).Truthful := by
  have small := prefetched.small set filled
  have size := flash.prefetchBuf.sized
  have read : flash.prefetchBuf.read (cycle.addr - flash.prefetchAddr) cycle.len =
      some (direct flash.content cycle.addr cycle.len) := by
    rw [Buffer.read_eq (by omega)]
    congr 1
    apply ext_getElem?
    intro index
    rw [direct, getElem?_map, getElem?_take, getElem?_drop]
    by_cases inside : index < cycle.len
    · have byte := prefetched.bytes set filled (cycle.addr - flash.prefetchAddr + index) (by omega)
      have place : flash.prefetchAddr + (cycle.addr - flash.prefetchAddr + index) =
          cycle.addr + index := by omega
      have within : cycle.addr - flash.prefetchAddr + index < flash.prefetchBuf.bytes.length := by
        omega
      rw [place, getD_eq_getElem _ _ within] at byte
      rw [if_pos inside, getElem?_range inside, getElem?_eq_getElem within, byte]
      rfl
    · rw [if_neg inside, getElem?_eq_none (by rw [length_range]; omega)]
      rfl
  have length := length_direct flash.content cycle.addr cycle.len
  obtain ⟨head, headSet, headed, -⟩ := headed_eq pkt (espi.respLen + UInt8.ofNat cycle.len)
    espi.sucCmpltDOnly (cycle.tag <<< 4) (UInt8.ofNat cycle.len)
  obtain ⟨answer, wrote, -⟩ := head.write_eq (direct flash.content cycle.addr cycle.len)
    (show 4 + _ ≤ _ by rw [length]; exact fits.1)
  obtain ⟨own, low⟩ := tag_shift_zero cycle.tag cycle.tagSmall
  refine ⟨head, answer, headSet, ?_, truthful_read (headed.write wrote) own ?_ fits rfl ?_ reads⟩
  · simp only [PldmFlash.copied, read, bind_eq_bind, bind_some]
    exact wrote
  · show (cycle.tag <<< 4 &&& 0x0F).toNat * 256 + (UInt8.ofNat cycle.len).toNat = cycle.len
    rw [low, UInt8.toNat_ofNat']
    simp only [UInt8.toNat_zero]
    omega
  · have data := Buffer.take_drop_write wrote
    rw [length] at data
    exact data

theorem serves_within {flash : PldmFlash espi} (prefetched : Prefetched flash)
    (serves : flash.serves cycle = true) (filled : flash.filled = true)
    (bounded : cycle.addr + cycle.len < 2 ^ 32) :
    flash.prefetch = true ∧ cycle.cyc = .read ∧ flash.prefetchAddr ≤ cycle.addr ∧
      cycle.addr + cycle.len ≤ flash.prefetchAddr + flash.prefetchLen := by
  simp only [PldmFlash.serves, PldmFlash.later, Bool.and_eq_true, decide_eq_true_eq,
    Bool.not_eq_true', Bool.and_eq_false_iff, decide_eq_false_iff_not] at serves
  obtain ⟨⟨⟨set, reads⟩, before⟩, inside⟩ := serves
  rw [Nat.mod_eq_of_lt bounded, Nat.mod_eq_of_lt (prefetched.bounded set filled)] at inside
  refine ⟨set, reads, ?_, inside⟩
  rcases before with (unset | other) | above
  · rw [set] at unset
    cases unset
  · exact absurd reads other
  · omega

theorem prefetched_off {flash : PldmFlash espi} (unset : flash.prefetch = false) :
    Prefetched flash := by
  have off : ¬ flash.prefetch = true := by
    rw [unset]
    simp
  exact ⟨fun set => absurd set off, fun set => absurd set off, fun set => absurd set off⟩

theorem prefetched_unfilled {flash : PldmFlash espi} (empty : flash.filled = false) :
    Prefetched flash := by
  have off : ¬ flash.filled = true := by
    rw [empty]
    simp
  exact ⟨fun _ set => absurd set off, fun _ set => absurd set off, fun _ set => absurd set off⟩

theorem pldmFlash_read {flash : PldmFlash espi} {outcome : PldmOutcome espi}
    (pkt : Packet espi) (sound : outcome.Sound flash cycle) (cyc : cycle.cyc = .read)
    (miss : flash.serves cycle = false) :
    ∃ after answer, pldmFlash flash outcome cycle pkt = some (after, answer) ∧
      Prefetched after ∧ (Completion.mk cycle flash.content after.content answer).Truthful := by
  obtain ⟨started, set, -⟩ := plain_eq cycle espi.sucCmplt pkt
  obtain ⟨asked, unsets, unsetHead⟩ := plain_eq cycle espi.unsucCmplt started
  obtain ⟨fits, short, -⟩ := sound.read cyc
  have requested : flash.requested cycle =
      { flash with
        prefetch := true, prefetchAddr := cycle.addr, prefetchLen := prefetchLenOf espi cycle,
        filled := false } :=
    if_pos cyc
  cases outcome with
  | failed content =>
    refine ⟨flash.requested cycle, asked, ?_, ?_, ?_⟩
    · simp only [pldmFlash, set, miss, unsets, pldmSendFlashrxToBmc, cyc, bind_eq_bind,
        bind_some, Bool.false_eq_true, if_false, if_true]
    · rw [requested]
      exact prefetched_unfilled rfl
    · exact truthful_failed unsetHead
  | answered resp content =>
    obtain ⟨within, small, bounded, bytes⟩ := sound.fills resp content rfl cyc miss
    let fetched : PldmFlash espi :=
      { flash with
        prefetch := true, prefetchAddr := cycle.addr, prefetchLen := prefetchLenOf espi cycle,
        prefetchBuf := resp.data, filled := true }
    have sends : pldmSendFlashrxToBmc (flash.requested cycle) (.answered resp content) asked =
        some (true, fetched, asked) := by
      rw [requested]
      rfl
    have prefetched : Prefetched fetched := ⟨fun _ _ => small, fun _ _ => bounded, fun _ _ => bytes⟩
    obtain ⟨head, answer, headSet, copies, truthful⟩ := copied_truthful asked prefetched rfl rfl
      le_rfl (Nat.add_le_add_left within cycle.addr) cyc fits short
    refine ⟨fetched, answer, ?_, prefetched, truthful⟩
    simp only [pldmFlash, set, miss, unsets, sends, cyc, headSet, copies, bind_eq_bind,
      bind_some, Bool.false_eq_true, if_false, if_true]

/-- A packet that the BMC sends is put behind the count. -/
theorem pldmPacket_eq {resp : PldmResp espi} {asked : Packet espi}
    {kind : UInt8} (headed : Headed asked espi.respLen kind (cycle.tag <<< 4) 0)
    (room : 1 + resp.pkgLen.toNat ≤ espi.pktSize) (whole : resp.pkgLen.toNat ≤ 3 + espi.bufSize)
    (own : 2 ≤ resp.pkgLen.toNat → resp.tagLenH >>> 4 = cycle.tag) :
    ∃ counted bytes sent, asked.write 0 [resp.pkgLen] = some counted ∧
      rangeAt resp.packet 0 resp.pkgLen.toNat = some bytes ∧ counted.write 1 bytes = some sent ∧
      sent.bytes.getD 2 0 >>> 4 = cycle.tag := by
  have size : resp.packet.length = 3 + espi.bufSize := by
    simp only [PldmResp.packet, length_append, length_cons, length_nil,
      resp.data.sized]
  obtain ⟨counted, wrote, countedBytes⟩ :=
    asked.write_eq [resp.pkgLen] (show 0 + 1 ≤ espi.pktSize by omega)
  have read : rangeAt resp.packet 0 resp.pkgLen.toNat =
      some ((resp.packet.drop 0).take resp.pkgLen.toNat) :=
    rangeAt_eq (by omega)
  have length : ((resp.packet.drop 0).take resp.pkgLen.toNat).length = resp.pkgLen.toNat := by
    rw [length_take, length_drop]
    omega
  obtain ⟨sent, wroteSent, sentBytes⟩ := counted.write_eq
    ((resp.packet.drop 0).take resp.pkgLen.toNat) (show 1 + _ ≤ _ by rw [length]; exact room)
  refine ⟨counted, _, sent, wrote, read, wroteSent, ?_⟩
  rw [sentBytes, getD_splice (by rw [counted.sized, length]; exact room), length]
  by_cases tagged : 2 ≤ resp.pkgLen.toNat
  · rw [if_pos (by omega), drop_zero]
    have byte : (resp.packet.take resp.pkgLen.toNat).getD 1 0 = resp.tagLenH := by
      rw [getD_eq_getElem?_getD, getElem?_take_of_lt (by omega)]
      rfl
    show (resp.packet.take resp.pkgLen.toNat).getD 1 0 >>> 4 = cycle.tag
    rw [byte]
    exact own tagged
  · rw [if_neg (by omega), countedBytes,
      getD_splice (show 0 + 1 ≤ _ by rw [asked.sized]; omega)]
    show asked.bytes.getD 2 0 >>> 4 = cycle.tag
    rw [headed.tag]
    exact (tag_shift_zero cycle.tag cycle.tagSmall).1

/-- A cycle that does not read goes to the BMC. -/
theorem pldmFlash_change {flash : PldmFlash espi} {outcome : PldmOutcome espi}
    (pkt : Packet espi) (sound : outcome.Sound flash cycle) (cyc : cycle.cyc ≠ .read) :
    ∃ after answer, pldmFlash flash outcome cycle pkt = some (after, answer) ∧
      Prefetched after ∧ (Completion.mk cycle flash.content after.content answer).Truthful := by
  obtain ⟨started, set, -⟩ := plain_eq cycle espi.sucCmplt pkt
  obtain ⟨asked, unsets, unsetHead⟩ := plain_eq cycle espi.unsucCmplt started
  have miss : flash.serves cycle = false := by
    simp [PldmFlash.serves, cyc]
  have requested : flash.requested cycle = { flash with prefetch := false } := if_neg cyc
  cases outcome with
  | failed content =>
    refine ⟨{ flash with prefetch := false, content }, asked, ?_, prefetched_off rfl,
      truthful_failed unsetHead⟩
    simp only [pldmFlash, set, miss, unsets, pldmSendFlashrxToBmc, cyc, requested,
      PldmOutcome.content, bind_eq_bind, bind_some, Bool.false_eq_true, if_false]
  | answered resp content =>
    obtain ⟨room, whole, tagged⟩ := sound.answers resp content rfl cyc
    obtain ⟨counted, bytes, sent, counts, reads, sends, own⟩ :=
      pldmPacket_eq unsetHead room whole tagged
    have head := espi.head
    obtain ⟨lengthed, wroteLen, lenBytes⟩ :=
      sent.write_eq [UInt8.ofNat cycle.len] (show 3 + 1 ≤ espi.pktSize by omega)
    obtain ⟨answer, wroteKind, kindBytes⟩ :=
      lengthed.write_eq [espi.sucCmplt] (show 1 + 1 ≤ espi.pktSize by omega)
    have tag : answer.bytes.getD 2 0 = sent.bytes.getD 2 0 := by
      rw [kindBytes, getD_splice (by rw [lengthed.sized]; exact (show 1 + 1 ≤ _ by omega)),
        if_neg (by simp), lenBytes,
        getD_splice (by rw [sent.sized]; exact (show 3 + 1 ≤ _ by omega)), if_neg (by simp)]
    refine ⟨{ flash with prefetch := false, content }, answer, ?_, prefetched_off rfl, ?_⟩
    · simp only [pldmFlash, set, miss, unsets, pldmSendFlashrxToBmc, cyc, requested, counts, reads,
        sends, wroteLen, wroteKind, PldmOutcome.content, bind_eq_bind, bind_some,
        Bool.false_eq_true, if_false, if_true]
    · apply truthful_changed (⟨rfl, rfl, rfl, rfl⟩ : Headed answer _ _ _ _)
      · show answer.bytes.getD 2 0 >>> 4 = cycle.tag
        rw [tag]
        exact own
      · exact cyc
      · intro known
        apply sound.change resp content rfl
        show cycle.cyc = .write ∨ cycle.cyc = .erase
        have known' : cycle.cyc ≠ .other := known
        cases kind : cycle.cyc with
        | read => exact absurd kind cyc
        | write => exact .inl rfl
        | erase => exact .inr rfl
        | other => exact absurd kind known'

theorem pldmFlash_sound {flash : PldmFlash espi} {outcome : PldmOutcome espi}
    (pkt : Packet espi) (prefetched : Prefetched flash) (sound : outcome.Sound flash cycle) :
    ∃ after answer, pldmFlash flash outcome cycle pkt = some (after, answer) ∧
      Prefetched after ∧ (Completion.mk cycle flash.content after.content answer).Truthful := by
  by_cases cyc : cycle.cyc = .read
  · cases serves : flash.serves cycle with
    | false => exact pldmFlash_read pkt sound cyc serves
    | true =>
      obtain ⟨fits, short, bounded⟩ := sound.read cyc
      have filled := sound.served serves
      obtain ⟨set, reads, above, below⟩ := serves_within prefetched serves filled bounded
      obtain ⟨started, sets, -⟩ := plain_eq cycle espi.sucCmplt pkt
      obtain ⟨head, answer, headSet, copies, truthful⟩ :=
        copied_truthful started prefetched set filled above below reads fits short
      refine ⟨flash, answer, ?_, prefetched, truthful⟩
      simp only [pldmFlash, sets, serves, headSet, copies, bind_eq_bind, bind_some,
        if_true]
  · exact pldmFlash_change pkt sound cyc

/-! ## Runs -/

/-- What the backend keeps of the flash is what the flash has. -/
def Backend.Coherent : Backend espi → Prop
  | .localFlash _ => True
  | .obmf device => Obmf.Coherent device.content device.pages
  | .mctp flash => Mctp.Flash.Coherent flash.content flash.cache.pages
  | .pldm flash => Prefetched flash

/-- The backend keeps nothing yet. -/
def Backend.Fresh : Backend espi → Prop
  | .localFlash _ => True
  | .obmf device => ∃ content pages, device = CachedDevice.init content pages
  | .mctp flash => flash.cache = FlashCache.init
  | .pldm flash => flash.prefetch = false

theorem Backend.Fresh.coherent {backend : Backend espi} (fresh : backend.Fresh) :
    backend.Coherent := by
  cases backend with
  | localFlash content => trivial
  | obmf device =>
    obtain ⟨content, pages, rfl⟩ := fresh
    exact CachedDevice.coherent_init content pages
  | mctp flash =>
    obtain ⟨content, cache⟩ := flash
    obtain rfl : cache = FlashCache.init := fresh
    exact Mctp.Flash.coherent_init content
  | pldm flash => exact prefetched_off fresh

/-- A round of the service serves its cycle and tells the truth about it. -/
theorem serve_sound {service : Service espi} {event : Cycle × Outcome espi}
    (coherent : service.backend.Coherent) (sound : Sound service event) :
    ∃ after answer, service.backend.serve event.2 event.1 service.pkt = some (after, answer) ∧
      after.Coherent ∧
      (Completion.mk event.1 service.backend.content after.content answer).Truthful := by
  obtain ⟨backend, pkt, completions⟩ := service
  obtain ⟨cycle, outcome⟩ := event
  cases backend with
  | localFlash content =>
    cases outcome with
    | localFlash outcome =>
      obtain ⟨after, answer, ran, truthful⟩ := localFlash_sound content pkt sound
      refine ⟨.localFlash after, answer, ?_, trivial, truthful⟩
      simp only [Backend.serve, ran, bind_eq_bind, bind_some]
    | _ => exact absurd sound not_false
  | obmf device =>
    cases outcome with
    | obmf outcome =>
      obtain ⟨after, answer, ran, kept, truthful⟩ := obmf_sound pkt coherent sound
      refine ⟨.obmf after, answer, ?_, kept, truthful⟩
      simp only [Backend.serve, ran, bind_eq_bind, bind_some]
    | _ => exact absurd sound not_false
  | mctp flash =>
    cases outcome with
    | mctp outcome =>
      obtain ⟨after, answer, ran, kept, truthful⟩ := mctpFlash_sound pkt coherent sound
      refine ⟨.mctp after, answer, ?_, kept, truthful⟩
      simp only [Backend.serve, ran, bind_eq_bind, bind_some]
    | _ => exact absurd sound not_false
  | pldm flash =>
    cases outcome with
    | pldm outcome =>
      obtain ⟨after, answer, ran, kept, truthful⟩ := pldmFlash_sound pkt coherent sound
      refine ⟨.pldm after, answer, ?_, kept, truthful⟩
      simp only [Backend.serve, ran, bind_eq_bind, bind_some]
    | _ => exact absurd sound not_false

theorem Follows.snoc {start finish : Content} {completions : List (Completion espi)}
    {completion : Completion espi} (follows : Follows start completions finish)
    (next : completion.before = finish) :
    Follows start (completions ++ [completion]) completion.after := by
  induction completions generalizing start with
  | nil => exact ⟨next.trans follows, rfl⟩
  | cons first rest ih => exact ⟨follows.1, ih follows.2⟩

/-- What the host was told up to a state. -/
structure Told (start : Content) (past : List (Cycle × Outcome espi)) (service : Service espi) :
    Prop where
  coherent : service.backend.Coherent
  each : service.completions.map (·.cycle) = past.map (·.1)
  truthful : ∀ completion ∈ service.completions, completion.Truthful
  follows : Follows start service.completions service.backend.content

/-- A sound cycle is served, and told as what it did. -/
theorem told_step {start : Content} {past : List (Cycle × Outcome espi)}
    {service : Service espi} {event : Cycle × Outcome espi} (told : Told start past service)
    (sound : Sound service event) :
    ∃ next, service.step event = some next ∧ Told start (past ++ [event]) next := by
  obtain ⟨after, answer, ran, kept, truthful⟩ := serve_sound told.coherent sound
  refine ⟨{ backend := after, pkt := answer, completions := service.completions ++
    [{ cycle := event.1, before := service.backend.content, after := after.content,
       pkt := answer }] }, ?_, kept, ?_, ?_, told.follows.snoc rfl⟩
  · simp only [Service.step, ran, bind_eq_bind, bind_some]
  · simp only [map_append, told.each, map_cons, map_nil]
  · intro completion listed
    rcases List.mem_append.mp listed with earlier | last
    · exact told.truthful completion earlier
    · obtain rfl := List.mem_singleton.mp last
      exact truthful

/-- In a run whose cycles are all sound, each cycle is answered once, and every completion tells the
truth about the flash as the earlier cycles left it. -/
theorem cycles_truthful (backend : Backend espi) (fresh : backend.Fresh)
    (events : List (Cycle × Outcome espi))
    (meets : Meets Service.step Sound (Service.start backend) events) :
    ∃ final, run Service.step (Service.start backend) events = some final ∧
      final.completions.map (·.cycle) = events.map (·.1) ∧
      (∀ completion ∈ final.completions, completion.Truthful) ∧
      Follows backend.content final.completions final.backend.content := by
  have initial : Told backend.content [] (Service.start backend) := by
    refine ⟨fresh.coherent, rfl, fun completion listed => ?_, rfl⟩
    exact absurd listed not_mem_nil
  obtain ⟨final, ran, told⟩ := history_runs told_step initial meets
  exact ⟨final, ran, told.each, told.truthful, told.follows⟩

def benchEspi : Espi where
  pktSize := 80
  head := by decide
  bufSize := 64
  respLen := 3
  sucCmplt := 0x06
  sucCmpltDOnly := 0x0F
  unsucCmplt := 0x0C
  distinct := by decide
  eraseSize len := if len = 0 then 0x1000 else 0x8000 * len
  erase4K := 0
  erase64K := 2
  erases := by decide

def readFour (tag : UInt8) (tagSmall : tag < 16) : Cycle where
  cyc := .read
  tag := tag
  tagSmall := tagSmall
  len := 4
  lenSmall := by decide
  addr := 0
  data := []
  carries reads := absurd reads (by decide)

def writeFour (tag : UInt8) (tagSmall : tag < 16) : Cycle where
  cyc := .write
  tag := tag
  tagSmall := tagSmall
  len := 4
  lenSmall := by decide
  addr := 0
  data := [1, 2, 3, 4]
  carries _ := rfl

/-- A flash that is all `0xAA`. -/
def benchContent : Content := fun _ => 0xAA

/-- A write and a read back of four bytes from the local flash. -/
theorem cycles_truthful_local :
    ∃ final, run Service.step (Service.start (.localFlash benchContent : Backend benchEspi))
        [(writeFour 1 (by decide), .localFlash .ok), (readFour 2 (by decide), .localFlash .ok)] =
          some final ∧
      final.completions.map (·.cycle) = [writeFour 1 (by decide), readFour 2 (by decide)] ∧
      (∀ completion ∈ final.completions, completion.Truthful) ∧
      Follows benchContent final.completions final.backend.content := by
  apply @cycles_truthful benchEspi (.localFlash benchContent) trivial
  refine ⟨fun reads => absurd reads (by decide), ?_, trivial⟩
  exact fun _ => ⟨rfl, by decide, by decide⟩

def benchPldm : PldmFlash benchEspi :=
  { content := benchContent, prefetch := false, prefetchAddr := 0, prefetchLen := 0,
    prefetchBuf := Buffer.zero benchEspi.bufSize, filled := false }

def unansweredReads : List (Cycle × Outcome benchEspi) :=
  [(readFour 1 (by decide), .pldm (.failed benchContent)),
    (readFour 2 (by decide), .pldm (.failed benchContent))]

/-- The second of two reads that the BMC does not answer is served from the buffer that the first
did not fill. -/
theorem unfilledBuffer_served :
    ∃ completion ∈ ((run Service.step (Service.start (.pldm benchPldm)) unansweredReads).map
        (·.completions)).getD [], ¬ completion.Truthful := by
  have served : ∃ completion ∈ ((run Service.step (Service.start (.pldm benchPldm))
      unansweredReads).map (·.completions)).getD [],
      completion.cycle.cyc = .read ∧ completion.byte 1 = benchEspi.sucCmpltDOnly ∧
        (completion.pkt.bytes.drop 4).take completion.cycle.len ≠
          direct completion.before completion.cycle.addr completion.cycle.len := by
    decide +kernel
  obtain ⟨completion, listed, reads, kind, data⟩ := served
  exact ⟨completion, listed, fun truthful => data (truthful.carries reads (.inr kind)).data⟩

end OpenBic.Hal.Edaf
