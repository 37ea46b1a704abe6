import OpenBic.Obmf.Request

/-!
# The memory device channel

`obmf_mem_dev_read`, `obmf_mem_dev_write` and `obmf_mem_dev_erase` with the page cache that the
responses fill. A byte that the host sends carries the address it was read from, so that what ends
up in the cache and in a caller's buffer can be compared with what was asked for.
-/

namespace OpenBic.Obmf

open List Option

open Library.Machine

def memDevPageSize : Nat := 960

def memDevMaxAddr : Nat := 0x4000000

def requestMaxRetry : Nat := 2

/-- How long a caller waits for `obmf_mem_dev_msgq`. -/
def memDevWaitMs : Nat := 10000

/-- `OBMF_MEM_DEV_CMD_*`. -/
inductive MemDevCommand where
  | read
  | write
  | erase

/-- `obmf_mem_dev_request_t`. -/
structure MemDevRequest where
  command : MemDevCommand
  address : Nat
  dataSize : Nat

/-- A byte of the host's device. -/
structure Cell where
  address : Nat
  value : UInt8
deriving DecidableEq

def cellsFrom (address : Nat) (values : List UInt8) : List Cell :=
  values.mapIdx fun index value => ⟨address + index, value⟩

/-- `struct obmf_mem_dev_page`. -/
structure Page where
  offset : Nat
  /-- The first `len` bytes of `buf`. -/
  data : List Cell

def Page.covers (page : Page) (addr len : Nat) : Bool :=
  0 < page.data.length && page.offset ≤ addr && addr + len ≤ page.offset + page.data.length

/-- The loop over the cache in `obmf_mem_dev_read`: the bytes copied, and the cache with their page
in front. -/
def lookUp (pages : List Page) (addr len : Nat) : Option (List Cell × List Page) :=
  (pages.find? (·.covers addr len)).map fun page =>
    ((page.data.drop (addr - page.offset)).take len, page :: pages.eraseP (·.covers addr len))

/-- A page is filled: the last page of the cache is taken and put in front. -/
def fillPage (pages : List Page) (offset : Nat) (data : List Cell) : List Page :=
  if pages = [] then [] else ⟨offset, data.take memDevPageSize⟩ :: pages.dropLast

/-- `drop_mem_dev_cache`: overlapping pages are reset and put at the end. -/
def dropCache (pages : List Page) (start finish : Nat) : List Page :=
  let stays (page : Page) : Bool :=
    page.data.length = 0 || page.offset + page.data.length ≤ start || finish < page.offset
  pages.filter stays ++ (pages.filter fun page => !stays page).map fun _ => Page.mk 0 []

def pageAddr (addr len : Nat) : Nat :=
  if memDevPageSize < addr % memDevPageSize + len then addr
  else addr / memDevPageSize * memDevPageSize

/-- A call of the memory device's functions. -/
inductive MemDevOp where
  | read (addr len : Nat)
  | write (addr len : Nat)
  | erase (addr size : Nat)

def MemDevOp.valid : MemDevOp → Bool
  | .read addr len => len ≠ 0 && len ≤ memDevPageSize && addr < memDevMaxAddr
  | .write addr len => len ≠ 0 && addr < memDevMaxAddr
  | .erase addr size =>
    size ≠ 0 && size % 1024 = 0 && size / 1024 ≤ 0xFFFF && addr % size = 0 && addr < memDevMaxAddr

def MemDevOp.request : MemDevOp → MemDevRequest
  | .read addr len =>
    ⟨.read, pageAddr addr len,
      min (pageAddr addr len + memDevPageSize) memDevMaxAddr - pageAddr addr len⟩
  | .write addr len => ⟨.write, addr, len % 2 ^ 16⟩
  | .erase addr size => ⟨.erase, addr, size / 1024⟩

/-- Where a call is. -/
inductive Phase where
  /-- Before `obmf_mem_dev_send_and_wait`. -/
  | ready
  /-- The request is built, and `obmf_mem_dev_msgq` purged. -/
  | prepared
  | waiting (id since : Nat)
  | looking (retry : Nat)
deriving DecidableEq

/-- A call in progress. -/
structure Call where
  op : MemDevOp
  retries : Nat
  phase : Phase

/-- The memory device's channel with its cached pages. -/
structure MemDev where
  channel : Requests MemDevRequest
  pendingPageRead : Bool
  pendingPageOffset : Nat
  /-- `obmf_mem_dev_msgq`, with whether the status is a success. -/
  msgq : Option Bool
  pages : List Page
  calls : List (Nat × Call)
  results : List (Nat × List Cell)

/-- What happens to the memory device. -/
inductive MemDevEvent where
  | begin (thread : Nat) (op : MemDevOp)
  /-- `obmf_mem_dev_send_and_wait` up to `k_msgq_purge`, with whether memory is left. -/
  | prepare (thread : Nat) (heap : Bool)
  /-- `obmf_send_request`, `late` when other steps come between its checks and the rest. -/
  | send (thread : Nat) (heap full late : Bool)
  /-- `k_msgq_get` has an entry. -/
  | wake (thread : Nat)
  /-- `k_msgq_get` times out. -/
  | expire (thread : Nat)
  | look (thread : Nat)
  | response (id : Nat) (success : Bool) (values : List UInt8)
  | other (event : RequestEvent MemDevRequest)

namespace MemDev

/-- `obmf_mem_dev_init`, with so many pages allocated. -/
def init (pages : Nat) : MemDev :=
  ⟨Requests.init, false, 0, none, List.replicate pages ⟨0, []⟩, [], []⟩

def callOf (device : MemDev) (thread : Nat) : Option Call :=
  (device.calls.find? fun entry => entry.1 = thread).map (·.2)

def setCall (device : MemDev) (thread : Nat) (call : Call) : MemDev :=
  { device with
    calls := device.calls.map fun entry => if entry.1 = thread then (thread, call) else entry }

def endCall (device : MemDev) (thread : Nat) : MemDev :=
  { device with calls := device.calls.filter fun entry => entry.1 ≠ thread }

def again (device : MemDev) (thread : Nat) (call : Call) : MemDev :=
  if 1 < call.retries then
    device.setCall thread { call with retries := call.retries - 1, phase := .ready }
  else device.endCall thread

def beginCall (device : MemDev) (thread : Nat) (op : MemDevOp) : MemDev :=
  if op.valid = false then device
  else
    let called := { device with
      calls := device.calls ++ [(thread, Call.mk op requestMaxRetry .ready)] }
    match op with
    | .read addr len =>
      match lookUp device.pages addr len with
      | some (data, pages) =>
        { device with pages := pages, results := device.results ++ [(addr, data)] }
      | none =>
        { called with pendingPageRead := true, pendingPageOffset := pageAddr addr len }
    | .write .. | .erase .. => { called with pendingPageRead := false }

/-- `obmf_mem_dev_send_and_wait` up to `k_msgq_purge`. -/
def prepareCall (device : MemDev) (thread : Nat) (call : Call) (heap : Bool) : MemDev :=
  if heap then { device with msgq := none }.setCall thread { call with phase := .prepared }
  else { device with pendingPageRead := false }.again thread call

def sendCall (device : MemDev) (thread : Nat) (call : Call) (heap full late : Bool) : MemDev :=
  let result :=
    if late then device.channel.commit call.op.request heap full
    else device.channel.sendRequest call.op.request heap full
  let sent := { device with channel := result.1 }
  match result.2 with
  | .ok =>
    sent.setCall thread { call with phase := .waiting device.channel.next device.channel.now }
  | .netDown => { sent with pendingPageRead := false }.endCall thread
  | .busy | .noMem | .noBufs => { sent with pendingPageRead := false }.again thread call

def wakeCall (device : MemDev) (thread : Nat) (call : Call) (success : Bool) : MemDev :=
  let woken := { device with msgq := none }
  if success = false then woken.again thread call
  else
    match call.op with
    | .read .. => woken.setCall thread { call with phase := .looking 9 }
    | .write addr len =>
      { woken with pages := dropCache device.pages addr ((addr + len) % 2 ^ 32) }.endCall thread
    | .erase addr size =>
      { woken with pages := dropCache device.pages addr ((addr + size) % 2 ^ 32) }.endCall thread

def lookCall (device : MemDev) (thread : Nat) (call : Call) (addr len retry : Nat) : MemDev :=
  match lookUp device.pages addr len with
  | some (data, pages) =>
    { device with pages := pages, results := device.results ++ [(addr, data)] }.endCall thread
  | none =>
    if 1 < retry then device.setCall thread { call with phase := .looking (retry - 1) }
    else device.endCall thread

def handleMemDevResponse (device : MemDev) (success : Bool) (data : List Cell) : MemDev :=
  { device with
    pendingPageRead := false
    pages :=
      if success ∧ data ≠ [] ∧ device.pendingPageRead then
        fillPage device.pages device.pendingPageOffset data
      else device.pages
    msgq := if device.msgq = none then some success else device.msgq }

/-- A response to a request at the host, which is dropped unless one is outstanding. -/
def getResponse (device : MemDev) (item : Item MemDevRequest) (success : Bool)
    (values : List UInt8) : MemDev :=
  let answered := { device with channel := device.channel.getResponse item.id true }
  if device.channel.tag.isOutstanding = false then answered
  else answered.handleMemDevResponse success (cellsFrom item.request.address values)

def step (device : MemDev) : MemDevEvent → Option MemDev
  | .begin thread op =>
    if device.callOf thread = none then some (device.beginCall thread op) else none
  | .prepare thread heap =>
    match device.callOf thread with
    | some call =>
      if call.phase = .ready then some (device.prepareCall thread call heap) else none
    | none => none
  | .send thread heap full late =>
    match device.callOf thread with
    | some call =>
      if call.phase = .prepared then some (device.sendCall thread call heap full late) else none
    | none => none
  | .wake thread =>
    match device.callOf thread, device.msgq with
    | some call, some success =>
      match call.phase with
      | .waiting .. => some (device.wakeCall thread call success)
      | _ => none
    | _, _ => none
  | .expire thread =>
    match device.callOf thread with
    | some call =>
      match call.phase with
      | .waiting id since =>
        if since + memDevWaitMs ≤ device.channel.now then
          some ({ device with
            channel := (device.channel.abandon id).clear
            pendingPageRead := false }.again thread call)
        else none
      | _ => none
    | none => none
  | .look thread =>
    match device.callOf thread with
    | some call =>
      match call.phase, call.op with
      | .looking retry, .read addr len => some (device.lookCall thread call addr len retry)
      | _, _ => none
    | none => none
  | .response id success values =>
    match device.channel.items.find? fun item => item.id = id with
    | some item =>
      if item.stage = .unanswered then some (device.getResponse item success values) else none
    | none => none
  | .other event =>
    if event.ofChannel then
      (device.channel.step event).map fun channel => { device with channel := channel }
    else none

end MemDev

/-! ## What the cache holds -/

/-- Each cell is in the place of its address. -/
def RightAt (address : Nat) (data : List Cell) : Prop :=
  ∀ index cell, data[index]? = some cell → cell.address = address + index

theorem rightAt_nil (address : Nat) : RightAt address [] := by
  intro index cell found
  simp at found

theorem rightAt_cellsFrom (address : Nat) (values : List UInt8) :
    RightAt address (cellsFrom address values) := by
  intro index cell found
  rw [cellsFrom, getElem?_mapIdx, map_eq_some_iff] at found
  obtain ⟨value, -, rfl⟩ := found
  rfl

theorem RightAt.take {address : Nat} {data : List Cell} (right : RightAt address data)
    (count : Nat) : RightAt address (data.take count) := by
  intro index cell found
  rw [getElem?_take] at found
  split at found
  · exact right index cell found
  · cases found

theorem RightAt.drop {address : Nat} {data : List Cell} (right : RightAt address data)
    (count : Nat) : RightAt (address + count) (data.drop count) := by
  intro index cell found
  rw [getElem?_drop] at found
  have shifted := right (count + index) cell found
  omega

/-- Every page's cells are. -/
def RightPages (pages : List Page) : Prop := ∀ page ∈ pages, RightAt page.offset page.data

theorem RightPages.lookUp {pages after : List Page} {addr len : Nat} {data : List Cell}
    (right : RightPages pages) (found : lookUp pages addr len = some (data, after)) :
    RightAt addr data ∧ RightPages after := by
  simp only [OpenBic.Obmf.lookUp, map_eq_some_iff, Prod.mk.injEq] at found
  obtain ⟨page, hit, rfl, rfl⟩ := found
  have listed := right page (mem_of_find?_eq_some hit)
  have covers := find?_some hit
  simp only [Page.covers, Bool.and_eq_true, decide_eq_true_eq] at covers
  have place : page.offset + (addr - page.offset) = addr := by omega
  have copied := (listed.drop (addr - page.offset)).take len
  rw [place] at copied
  refine ⟨copied, ?_⟩
  intro other inside
  rcases List.mem_cons.mp inside with rfl | rest
  · exact listed
  · exact right other (mem_of_mem_eraseP rest)

theorem RightPages.fillPage {pages : List Page} {offset : Nat} {data : List Cell}
    (right : RightPages pages) (filled : RightAt offset data) :
    RightPages (fillPage pages offset data) := by
  unfold OpenBic.Obmf.fillPage
  split
  · exact fun _ listed => absurd listed not_mem_nil
  · intro page inside
    rcases List.mem_cons.mp inside with rfl | rest
    · exact filled.take memDevPageSize
    · exact right page (dropLast_subset _ rest)

theorem RightPages.dropCache {pages : List Page} (right : RightPages pages) (start finish : Nat) :
    RightPages (dropCache pages start finish) := by
  intro page inside
  rcases List.mem_append.mp inside with kept | dropped
  · exact right page (mem_of_mem_filter kept)
  · obtain ⟨old, -, rfl⟩ := List.mem_map.mp dropped
    exact rightAt_nil 0

namespace MemDev

/-- Whatever is in the cache or was copied into a caller's buffer was read where it is said to be.
-/
def Faithful (device : MemDev) : Prop :=
  RightPages device.pages ∧ ∀ result ∈ device.results, RightAt result.1 result.2

/-- One call is in progress at a time, and the channel clears the flag of no request under way but
on its own answer, transmit failure or timeout. -/
def Own (device : MemDev) : MemDevEvent → Prop
  | .begin .. => device.calls = []
  | .response id _ _ => device.channel.Own (.response id true)
  | .other event => device.channel.Own event
  | .prepare .. | .send .. | .wake _ | .expire _ | .look _ => True

instance (device : MemDev) (event : MemDevEvent) : Decidable (device.Own event) := by
  cases event
  all_goals
    unfold Own
    infer_instance

/-- What holds of the call in progress. -/
structure Serves (device : MemDev) (call : Call) : Prop where
  reads : device.pendingPageRead = true → call.op.request.address = device.pendingPageOffset
  waits : device.channel.tag.isOutstanding = true →
    ∃ id since, call.phase = .waiting id since ∧ device.channel.IsLast id
  purged : device.channel.tag.isOutstanding = true ∨ call.phase = .prepared → device.msgq = none
  asks : ∀ id since, call.phase = .waiting id since →
    ∀ item ∈ device.channel.items, item.id = id → item.request = call.op.request

/-- What holds in every state. -/
structure Sound (device : MemDev) : Prop where
  channel : device.channel.Invariant
  faithful : device.Faithful
  call : (device.calls = [] ∧ device.channel.tag.isOutstanding = false) ∨
    ∃ thread call, device.calls = [(thread, call)] ∧ device.Serves call

variable {device : MemDev}

theorem sound_init (pages : Nat) : (init pages).Sound where
  channel := Requests.invariant_init
  faithful := by
    refine ⟨fun page listed => ?_, fun _ listed => absurd listed not_mem_nil⟩
    obtain ⟨-, rfl⟩ := List.mem_replicate.mp listed
    exact rightAt_nil 0
  call := .inl ⟨rfl, rfl⟩

theorem Sound.serves (sound : device.Sound) {thread : Nat} {call : Call}
    (found : device.callOf thread = some call) :
    device.calls = [(thread, call)] ∧ device.Serves call := by
  rcases sound.call with ⟨idle, -⟩ | ⟨other, running, only, serves⟩
  · simp [callOf, idle] at found
  · by_cases same : other = thread
    · simp only [callOf, only, same, find?_cons, decide_true, map_some,
        Option.some.injEq] at found
      subst found
      exact ⟨same ▸ only, serves⟩
    · simp [callOf, only, same] at found

theorem calls_setCall {thread : Nat} {call : Call} (only : device.calls = [(thread, call)])
    (next : Call) : (device.setCall thread next).calls = [(thread, next)] := by
  simp [setCall, only]

theorem calls_endCall {thread : Nat} {call : Call} (only : device.calls = [(thread, call)]) :
    (device.endCall thread).calls = [] := by
  simp [endCall, only]

theorem Sound.of_endCall {thread : Nat} {call : Call} (channel : device.channel.Invariant)
    (faithful : device.Faithful) (only : device.calls = [(thread, call)])
    (idle : device.channel.tag.isOutstanding = false) : (device.endCall thread).Sound where
  channel := channel
  faithful := faithful
  call := .inl ⟨calls_endCall only, idle⟩

theorem Sound.of_setCall {thread : Nat} {call next : Call} (channel : device.channel.Invariant)
    (faithful : device.Faithful) (only : device.calls = [(thread, call)])
    (serves : device.Serves next) : (device.setCall thread next).Sound where
  channel := channel
  faithful := faithful
  call := .inr ⟨thread, next, calls_setCall only next,
    ⟨serves.reads, serves.waits, serves.purged, serves.asks⟩⟩

theorem Sound.of_again {thread : Nat} {call : Call} (channel : device.channel.Invariant)
    (faithful : device.Faithful) (only : device.calls = [(thread, call)])
    (idle : device.channel.tag.isOutstanding = false)
    (reads : device.pendingPageRead = true → call.op.request.address = device.pendingPageOffset) :
    (device.again thread call).Sound := by
  unfold again
  split
  · refine Sound.of_setCall channel faithful only ⟨reads, ?_, ?_, ?_⟩
    · intro flag
      exact absurd (idle.symm.trans flag) (by decide)
    · rintro (flag | prepared)
      · exact absurd (idle.symm.trans flag) (by decide)
      · cases prepared
    · intro id since waiting
      cases waiting
  · exact Sound.of_endCall channel faithful only idle

theorem Serves.idle {call : Call} (serves : device.Serves call)
    (phase : ∀ id since, call.phase ≠ .waiting id since) :
    device.channel.tag.isOutstanding = false := by
  by_contra flag
  rw [Bool.not_eq_false] at flag
  obtain ⟨id, since, waiting, -⟩ := serves.waits flag
  exact phase id since waiting

theorem Serves.fades {call : Call} {after : Requests MemDevRequest} (serves : device.Serves call)
    (fades : device.channel.Fades after) : Serves { device with channel := after } call where
  reads := serves.reads
  waits := fun flag => by
    obtain ⟨id, since, waiting, last⟩ := serves.waits (fades.flag flag)
    refine ⟨id, since, waiting, ?_⟩
    rw [Requests.IsLast] at last ⊢
    exact last.trans fades.next.symm
  purged := fun held => serves.purged (held.imp_left fades.flag)
  asks := fun id since waiting item listed same => by
    obtain ⟨old, inside, sameId, sameRequest⟩ := fades.items item listed
    exact sameRequest ▸ serves.asks id since waiting old inside (sameId.trans same)

theorem Sound.fades {after : Requests MemDevRequest} (sound : device.Sound)
    (fades : device.channel.Fades after) (kept : after.Invariant) :
    Sound { device with channel := after } where
  channel := kept
  faithful := sound.faithful
  call := by
    rcases sound.call with ⟨none, idle⟩ | ⟨thread, call, only, serves⟩
    · refine .inl ⟨none, ?_⟩
      by_contra flag
      rw [Bool.not_eq_false] at flag
      exact absurd (idle.symm.trans (fades.flag flag)) (by decide)
    · exact .inr ⟨thread, call, only, serves.fades fades⟩

end MemDev

/-- A request is queued, or the flag is clear. -/
def Requests.Queued {ρ : Type} (channel : Requests ρ) (request : ρ)
    (result : Requests ρ × SendResult) : Prop :=
  (result.2 = .ok ∧ result.1.next = channel.next + 1 ∧
    result.1.items = channel.items ++ [⟨channel.next, request, .queued, false⟩]) ∨
  (result.2 ≠ .ok ∧ result.1.tag.isOutstanding = false)

theorem Requests.queued_commit {ρ : Type} (channel : Requests ρ) (request : ρ) (heap full : Bool) :
    channel.Queued request (channel.commit request heap full) := by
  unfold Requests.commit
  split
  · exact .inr ⟨by simp, rfl⟩
  split
  · exact .inr ⟨by simp, rfl⟩
  · exact .inl ⟨rfl, rfl, rfl⟩

theorem Requests.queued_sendRequest {ρ : Type} {channel : Requests ρ}
    (idle : channel.tag.isOutstanding = false) (request : ρ) (heap full : Bool) :
    channel.Queued request (channel.sendRequest request heap full) := by
  simp only [Requests.sendRequest, idle, Bool.false_eq_true, false_and, if_false]
  split
  · exact .inr ⟨by simp, idle⟩
  · exact channel.queued_commit request heap full

namespace MemDev

variable {device : MemDev}

theorem Sound.beginCall (sound : device.Sound) (alone : device.calls = []) (thread : Nat)
    (op : MemDevOp) : (device.beginCall thread op).Sound := by
  have idle : device.channel.tag.isOutstanding = false := by
    rcases sound.call with ⟨-, idle⟩ | ⟨other, call, only, -⟩
    · exact idle
    · exact absurd (alone.symm.trans only) (by simp)
  have started (pending : Bool) (offset : Nat)
      (reads : pending = true → op.request.address = offset) :
      Sound { device with
        calls := device.calls ++ [(thread, Call.mk op requestMaxRetry .ready)]
        pendingPageRead := pending
        pendingPageOffset := offset } := by
    refine ⟨sound.channel, sound.faithful, .inr ⟨thread, ⟨op, requestMaxRetry, .ready⟩, ?_, ?_⟩⟩
    · simp [alone]
    · refine ⟨reads, fun flag => ?_, ?_, fun id since waiting => ?_⟩
      · exact absurd (idle.symm.trans flag) (by decide)
      · rintro (flag | prepared)
        · exact absurd (idle.symm.trans flag) (by decide)
        · cases prepared
      · cases waiting
  simp only [MemDev.beginCall]
  split
  · exact sound
  cases op with
  | read addr len =>
    simp only
    split
    · rename_i data pages found
      obtain ⟨copied, kept⟩ := sound.faithful.1.lookUp found
      refine ⟨sound.channel, ⟨kept, fun result listed => ?_⟩, .inl ⟨alone, idle⟩⟩
      rcases List.mem_append.mp listed with before | new
      · exact sound.faithful.2 result before
      · obtain rfl := List.mem_singleton.mp new
        exact copied
    · exact started true (pageAddr addr len) fun _ => rfl
  | write addr len => exact started false _ fun pending => absurd pending (by decide)
  | erase addr size => exact started false _ fun pending => absurd pending (by decide)

theorem Sound.prepareCall (sound : device.Sound) {thread : Nat} {call : Call}
    (found : device.callOf thread = some call) (ready : call.phase = .ready) (heap : Bool) :
    (device.prepareCall thread call heap).Sound := by
  obtain ⟨only, serves⟩ := sound.serves found
  have idle := serves.idle fun id since waiting => by simp [ready] at waiting
  unfold MemDev.prepareCall
  split
  · refine Sound.of_setCall sound.channel sound.faithful only
      ⟨serves.reads, fun flag => ?_, fun _ => rfl, fun id since waiting => ?_⟩
    · exact absurd (idle.symm.trans flag) (by decide)
    · cases waiting
  · exact Sound.of_again sound.channel sound.faithful only idle
      fun pending => absurd pending (by simp)

theorem Sound.sendCall (sound : device.Sound) {thread : Nat} {call : Call}
    (found : device.callOf thread = some call) (prepared : call.phase = .prepared)
    (heap full late : Bool) : (device.sendCall thread call heap full late).Sound := by
  obtain ⟨only, serves⟩ := sound.serves found
  have idle := serves.idle fun id since waiting => by simp [prepared] at waiting
  obtain ⟨result, sent, kept, queued⟩ : ∃ result,
      (if late then device.channel.commit call.op.request heap full
        else device.channel.sendRequest call.op.request heap full) = result ∧
      result.1.Invariant ∧ device.channel.Queued call.op.request result := by
    refine ⟨_, rfl, ?_⟩
    split
    · exact ⟨sound.channel.commit (sound.channel.settled_of_clear idle) _ heap full,
        device.channel.queued_commit _ heap full⟩
    · exact ⟨sound.channel.sendRequest _ heap full, Requests.queued_sendRequest idle _ heap full⟩
  simp only [MemDev.sendCall, sent]
  rcases queued with ⟨accepted, number, listed⟩ | ⟨refused, still⟩
  · rw [accepted]
    refine Sound.of_setCall kept sound.faithful only
      ⟨serves.reads, fun _ => ⟨_, _, rfl, number.symm⟩, fun _ => serves.purged (.inr prepared), ?_⟩
    intro id since waiting item inside same
    obtain ⟨rfl, -⟩ := Phase.waiting.inj waiting
    rw [listed] at inside
    rcases List.mem_append.mp inside with before | new
    · exact absurd same (Nat.ne_of_lt (sound.channel.fresh item before))
    · obtain rfl := List.mem_singleton.mp new
      rfl
  · have failed (pending : MemDev) : pending = { device with
        channel := result.1
        pendingPageRead := false } → (pending.endCall thread).Sound ∧
        (pending.again thread call).Sound := by
      rintro rfl
      exact ⟨Sound.of_endCall kept sound.faithful only still,
        Sound.of_again kept sound.faithful only still fun pending => absurd pending (by simp)⟩
    split
    · rename_i accepted
      exact absurd accepted refused
    · exact (failed _ rfl).1
    all_goals exact (failed _ rfl).2

theorem Sound.wakeCall (sound : device.Sound) {thread : Nat} {call : Call} {success : Bool}
    (found : device.callOf thread = some call) (entry : device.msgq = some success) :
    (device.wakeCall thread call success).Sound := by
  obtain ⟨only, serves⟩ := sound.serves found
  have idle : device.channel.tag.isOutstanding = false := by
    by_contra flag
    rw [Bool.not_eq_false] at flag
    exact absurd (entry.symm.trans (serves.purged (.inl flag))) (by simp)
  simp only [MemDev.wakeCall]
  split
  · exact Sound.of_again sound.channel sound.faithful only idle serves.reads
  · split
    · refine Sound.of_setCall sound.channel sound.faithful only
        ⟨serves.reads, fun flag => ?_, fun _ => rfl, fun other time looking => ?_⟩
      · exact absurd (idle.symm.trans flag) (by decide)
      · cases looking
    all_goals
      exact Sound.of_endCall sound.channel
        ⟨sound.faithful.1.dropCache _ _, sound.faithful.2⟩ only idle

theorem Sound.expireCall (sound : device.Sound) {thread id since : Nat} {call : Call}
    (found : device.callOf thread = some call) (waiting : call.phase = .waiting id since) :
    ({ device with
      channel := (device.channel.abandon id).clear
      pendingPageRead := false }.again thread call).Sound := by
  obtain ⟨only, serves⟩ := sound.serves found
  have own : device.channel.tag.isOutstanding = true → device.channel.IsLast id := by
    intro flag
    obtain ⟨other, time, phase, last⟩ := serves.waits flag
    obtain ⟨rfl, -⟩ := Phase.waiting.inj (waiting.symm.trans phase)
    exact last
  exact Sound.of_again ((sound.channel.abandon id).clear (sound.channel.settled_abandon own))
    sound.faithful only rfl fun pending => absurd pending (by simp)

theorem Sound.lookCall (sound : device.Sound) {thread retry : Nat} {call : Call}
    (found : device.callOf thread = some call) (looking : call.phase = .looking retry)
    (addr len : Nat) : (device.lookCall thread call addr len retry).Sound := by
  obtain ⟨only, serves⟩ := sound.serves found
  have idle := serves.idle fun id since waiting => by simp [looking] at waiting
  unfold MemDev.lookCall
  split
  · rename_i data pages hit
    obtain ⟨copied, kept⟩ := sound.faithful.1.lookUp hit
    refine Sound.of_endCall sound.channel ⟨kept, fun result listed => ?_⟩ only idle
    rcases List.mem_append.mp listed with before | new
    · exact sound.faithful.2 result before
    · obtain rfl := List.mem_singleton.mp new
      exact copied
  · split
    · refine Sound.of_setCall sound.channel sound.faithful only
        ⟨serves.reads, fun flag => ?_, fun held => ?_, fun id since waiting => ?_⟩
      · exact absurd (idle.symm.trans flag) (by decide)
      · rcases held with flag | prepared
        · exact absurd (idle.symm.trans flag) (by decide)
        · cases prepared
      · cases waiting
    · exact Sound.of_endCall sound.channel sound.faithful only idle

end MemDev

theorem Requests.idle_getResponse {ρ : Type} {channel : Requests ρ}
    (flag : channel.tag.isOutstanding = true) (id : Nat) :
    (channel.getResponse id true).tag.isOutstanding = false := by
  have flagged : ¬ channel.tag.isOutstanding = false := by simp [flag]
  simp only [Requests.getResponse, flagged, if_true]
  rfl

namespace MemDev

variable {device after : MemDev}

/-- A response arrives: what it fills was asked for by the call that waits. -/
theorem Sound.getResponse (sound : device.Sound) {item : Item MemDevRequest}
    (listed : item ∈ device.channel.items)
    (own : device.channel.tag.isOutstanding = true → device.channel.IsLast item.id)
    (success : Bool) (values : List UInt8) : (device.getResponse item success values).Sound := by
  have kept := sound.channel.getResponse true own
  have fades := device.channel.fades_getResponse item.id true
  simp only [MemDev.getResponse]
  split
  · exact sound.fades fades kept
  rename_i flagged
  rw [Bool.not_eq_false] at flagged
  have idle := Requests.idle_getResponse flagged item.id
  rcases sound.call with ⟨-, unflagged⟩ | ⟨thread, call, only, serves⟩
  · exact absurd (unflagged.symm.trans flagged) (by decide)
  obtain ⟨id, since, waiting, last⟩ := serves.waits flagged
  have same : item.id = id := Nat.succ.inj ((own flagged).trans last.symm)
  have asked := serves.asks id since waiting item listed same
  refine ⟨kept, ⟨?_, sound.faithful.2⟩, .inr ⟨thread, call, only, ?_⟩⟩
  · simp only [handleMemDevResponse]
    split
    · rename_i filled
      refine sound.faithful.1.fillPage ?_
      have place := serves.reads filled.2.2
      rw [← asked] at place
      exact place ▸ rightAt_cellsFrom item.request.address values
    · exact sound.faithful.1
  · refine ⟨fun pending => ?_, fun flag => ?_, ?_, (serves.fades fades).asks⟩
    · cases pending
    · exact absurd (idle.symm.trans flag) (by decide)
    · rintro (flag | prepared)
      · exact absurd (idle.symm.trans flag) (by decide)
      · exact absurd (waiting.symm.trans prepared) (by simp)

/-- An event that is its own keeps the device so. -/
theorem sound_step {event : MemDevEvent} (sound : device.Sound) (own : device.Own event)
    (moved : device.step event = some after) : after.Sound := by
  cases event with
  | begin thread op =>
    simp only [step, ite_none_right_eq_some] at moved
    cases moved.2
    exact sound.beginCall own thread op
  | prepare thread heap =>
    simp only [step] at moved
    split at moved
    · rename_i call found
      rw [ite_none_right_eq_some] at moved
      cases moved.2
      exact sound.prepareCall found moved.1 heap
    · cases moved
  | send thread heap full late =>
    simp only [step] at moved
    split at moved
    · rename_i call found
      rw [ite_none_right_eq_some] at moved
      cases moved.2
      exact sound.sendCall found moved.1 heap full late
    · cases moved
  | wake thread =>
    simp only [step] at moved
    split at moved
    · rename_i call success found entry
      split at moved
      · cases moved
        exact sound.wakeCall found entry
      · cases moved
    · cases moved
  | expire thread =>
    simp only [step] at moved
    split at moved
    · rename_i call found
      split at moved
      · rename_i id since waiting
        rw [ite_none_right_eq_some] at moved
        cases moved.2
        exact sound.expireCall found waiting
      · cases moved
    · cases moved
  | look thread =>
    simp only [step] at moved
    split at moved
    · rename_i call found
      split at moved
      · rename_i retry addr len looking _
        cases moved
        exact sound.lookCall found looking addr len
      · cases moved
    · cases moved
  | response id success values =>
    simp only [step] at moved
    split at moved
    · rename_i item found
      rw [ite_none_right_eq_some] at moved
      cases moved.2
      have same : item.id = id := by simpa using find?_some found
      exact sound.getResponse (mem_of_find?_eq_some found)
        (fun flag => same ▸ own flag) success values
    · cases moved
  | other event =>
    simp only [step, ite_none_right_eq_some, map_eq_some_iff] at moved
    obtain ⟨other, channel, went, rfl⟩ := moved
    exact sound.fades (Requests.fades_step other went)
      (Requests.invariant_step sound.channel own went)

/-- The pages are sound along every run whose threads keep to their own requests. -/
theorem sound_run {pages : Nat} {events : List MemDevEvent} {final : MemDev}
    (own : Meets step Own (init pages) events) (ran : run step (init pages) events = some final) :
    final.Sound :=
  invariant sound_step (sound_init pages) own ran

/-- In every run in which the flag of a request that is under way is cleared only by what becomes of
the request itself, a channel has at most one request under way that was not given up, and a
response is taken for the request that it answers only; then the memory device, with one call at a
time, fills its cache and its callers' buffers with the bytes of the address asked for. -/
theorem consumer_run {ρ : Type} {events : List (RequestEvent ρ)} {channel : Requests ρ}
    {pages : Nat} {deviceEvents : List MemDevEvent} {device : MemDev}
    (own : Meets Requests.step Requests.Own Requests.init events)
    (ran : run Requests.step Requests.init events = some channel)
    (deviceOwn : Meets step Own (init pages) deviceEvents)
    (deviceRan : run step (init pages) deviceEvents = some device) :
    (channel.AtMostOne ∧ channel.Matched) ∧
      device.channel.AtMostOne ∧ device.channel.Matched ∧ device.Faithful := by
  have holds := Requests.invariant_run own ran
  have sound := sound_run deviceOwn deviceRan
  exact ⟨⟨holds.atMostOne, holds.matched⟩, sound.channel.atMostOne, sound.channel.matched,
    sound.faithful⟩

def transmitted : List MemDevEvent :=
  [.prepare 0 true, .send 0 true false false, .other .take, .other (.sent true)]

/-- A request that is abandoned before another, and a read of four bytes that is answered in time.
-/
theorem consumer_run_read :
    ∃ channel ∈ run Requests.step (Requests.init : Requests Nat)
        [.control 1, .send 7 true false, .take, .sent true, .expire 0, .busReset, .response 0 true,
          .send 8 true false],
    ∃ device ∈ run step (init 5) ([.other (.control 1), .begin 0 (.read 5 4)] ++ transmitted ++
        [.response 0 true [1, 2, 3, 4, 5, 6, 7, 8, 9], .wake 0, .look 0]),
      channel.next = 2 ∧ device.results = [(5, cellsFrom 5 [6, 7, 8, 9])] ∧
        (channel.AtMostOne ∧ channel.Matched) ∧
        device.channel.AtMostOne ∧ device.channel.Matched ∧ device.Faithful := by
  obtain ⟨channel, ran, accepted⟩ :
      ∃ channel ∈ run Requests.step (Requests.init : Requests Nat)
        [.control 1, .send 7 true false, .take, .sent true, .expire 0, .busReset, .response 0 true,
          .send 8 true false],
        channel.next = 2 := by decide +kernel
  obtain ⟨device, deviceRan, copied⟩ :
      ∃ device ∈ run step (init 5) ([.other (.control 1), .begin 0 (.read 5 4)] ++ transmitted ++
        [.response 0 true [1, 2, 3, 4, 5, 6, 7, 8, 9], .wake 0, .look 0]),
        device.results = [(5, cellsFrom 5 [6, 7, 8, 9])] := by decide +kernel
  exact ⟨channel, ran, device, deviceRan, accepted, copied,
    consumer_run (by decide +kernel) ran (by decide +kernel) deviceRan⟩

/-- The response to an abandoned request is taken as the answer to its retry, and the answer to the
retry then fills the page of the next read. -/
theorem consumer_fails :
    ¬ ∀ (pages : Nat) (events : List MemDevEvent) (final : MemDev),
      run step (init pages) events = some final → final.Faithful := by
  intro always
  obtain ⟨final, ran, copied⟩ :
      ∃ final ∈ run step (init 5)
        ([.other (.control 1), .begin 0 (.read 0 4)] ++ transmitted ++
          [.other (.tick 10000), .expire 0] ++ transmitted ++
          [.response 0 true [7, 7, 7, 7], .wake 0] ++ List.replicate 9 (.look 0) ++
          [.begin 0 (.read 960 4)] ++ transmitted ++
          [.response 1 true [7, 7, 7, 7], .wake 0, .look 0]),
        (960, cellsFrom 0 [7, 7, 7, 7]) ∈ final.results := by decide +kernel
  have place := (always 5 _ final ran).2 _ copied 0 ⟨0, 7⟩ (by decide)
  cases place

end MemDev

end OpenBic.Obmf
