import OpenBic.Obmf.MemDevice

/-!
# The page cache and the device behind it

One call of the memory device after another, with the outcome of each try and the content of the
host's device. A cached byte can be compared with the device because it carries its address. A
response that comes too late for its try is taken for the answer to a later one that waits.
-/

namespace OpenBic.Obmf

open List Option

open Library.Machine

/-- How one try of `obmf_mem_dev_send_and_wait` comes out. -/
inductive Try where
  | netDown
  | failed (applied : Bool)
  | answered (count : Nat)
  /-- What answers it is a success that was sent for an earlier try. -/
  | late (applied : Bool) (data : List Cell)

def Try.applied : Try → Bool
  | .netDown => false
  | .failed applied | .late applied _ => applied
  | .answered _ => true

/-- A call with the data of a write and the outcomes of the tries. -/
structure DeviceCall where
  op : MemDevOp
  data : Nat → UInt8
  tries : Nat → Try

def DeviceCall.apply (call : DeviceCall) (content : Nat → UInt8) : Nat → UInt8 :=
  match call.op with
  | .read _ _ => content
  | .write addr len => fun place =>
    if addr ≤ place ∧ place < addr + len % 2 ^ 16 then call.data (place - addr) else content place
  | .erase addr size => fun place =>
    if addr ≤ place ∧ place < addr + size then 0xFF else content place

def direct (content : Nat → UInt8) (addr len : Nat) : List UInt8 :=
  (List.range len).map fun index => content (addr + index)

/-- The cache in front of the host's device. -/
structure CachedDevice where
  content : Nat → UInt8
  pages : List Page
  pendingPageRead : Bool
  pendingPageOffset : Nat

/-- How the wait for a response ends. -/
inductive Waited where
  | ok
  | netDown
  | error
deriving DecidableEq

namespace CachedDevice

/-- `obmf_mem_dev_init`, with so many pages allocated. -/
def init (content : Nat → UInt8) (pages : Nat) : CachedDevice :=
  ⟨content, List.replicate pages ⟨0, []⟩, false, 0⟩

/-- `handle_mem_dev_response` of a success. -/
def handleMemDevResponse (device : CachedDevice) (data : List Cell) : CachedDevice :=
  { device with
    pendingPageRead := false
    pages :=
      if data ≠ [] ∧ device.pendingPageRead then
        fillPage device.pages device.pendingPageOffset data
      else device.pages }

def payload (device : CachedDevice) (call : DeviceCall) (count : Nat) : List Cell :=
  match call.op with
  | .read _ _ =>
    cellsFrom call.op.request.address (direct device.content call.op.request.address count)
  | _ => []

def sendAndWait (device : CachedDevice) (call : DeviceCall) : Try → Waited × CachedDevice
  | .netDown => (.netDown, { device with pendingPageRead := false })
  | .failed applied =>
    (.error,
      { device with
        content := if applied then call.apply device.content else device.content
        pendingPageRead := false })
  | .answered count =>
    (.ok, { device with content := call.apply device.content }.handleMemDevResponse
      (device.payload call count))
  | .late applied data =>
    (.ok,
      { device with
        content := if applied then call.apply device.content else device.content
      }.handleMemDevResponse data)

def attempts (device : CachedDevice) (call : DeviceCall) (index : Nat) :
    Nat → Waited × CachedDevice
  | 0 => (.error, device)
  | left + 1 =>
    match device.sendAndWait call (call.tries index) with
    | (.error, after) => after.attempts call (index + 1) left
    | returned => returned

def lookAgain (device : CachedDevice) (addr len : Nat) : Nat → Option (List Cell) × CachedDevice
  | 0 => (none, device)
  | left + 1 =>
    match lookUp device.pages addr len with
    | some (data, pages) => (some data, { device with pages := pages })
    | none => device.lookAgain addr len left

/-- `obmf_mem_dev_read` with valid arguments. -/
def memDevRead (device : CachedDevice) (call : DeviceCall) (addr len : Nat) :
    Option (List Cell) × CachedDevice :=
  match lookUp device.pages addr len with
  | some (data, pages) => (some data, { device with pages := pages })
  | none =>
    let pending :=
      { device with pendingPageRead := true, pendingPageOffset := pageAddr addr len }
    match pending.attempts call 0 requestMaxRetry with
    | (.ok, fetched) => fetched.lookAgain addr len 9
    | (_, failed) => (none, failed)

/-- `obmf_mem_dev_write` and `obmf_mem_dev_erase` of a range with valid arguments. -/
def memDevChange (device : CachedDevice) (call : DeviceCall) (addr size : Nat) : CachedDevice :=
  match { device with pendingPageRead := false }.attempts call 0 requestMaxRetry with
  | (.ok, changed) =>
    { changed with pages := dropCache changed.pages addr ((addr + size) % 2 ^ 32) }
  | (_, failed) => failed

/-- A call: the bytes that a read returned, and the device afterwards. -/
def callDevice (device : CachedDevice) (call : DeviceCall) : Option (List UInt8) × CachedDevice :=
  if call.op.valid = false then (none, device)
  else
    match call.op with
    | .read addr len =>
      let (data, after) := device.memDevRead call addr len
      (data.map fun cells => cells.map Cell.value, after)
    | .write addr len => (none, device.memDevChange call addr len)
    | .erase addr size => (none, device.memDevChange call addr size)

def changeReturns (device : CachedDevice) (call : DeviceCall) : Bool :=
  call.op.valid &&
    decide (({ device with pendingPageRead := false }.attempts call 0 requestMaxRetry).1 = .ok)

def step (device : CachedDevice) (call : DeviceCall) : Option CachedDevice :=
  some (device.callDevice call).2

end CachedDevice

/-! ## Calls and their tries -/

/-- A try is made: those before it fail. -/
def DeviceCall.Made (call : DeviceCall) (index : Nat) : Prop :=
  index < requestMaxRetry ∧ ∀ earlier < index, ∃ applied, call.tries earlier = .failed applied

/-- No try is answered by what was sent for an earlier one. -/
def DeviceCall.OwnAnswers (call : DeviceCall) : Prop :=
  ∀ index applied data, call.Made index → call.tries index ≠ .late applied data

/-- A page's bytes reach to the end of the range. -/
def enough (addr len count : Nat) : Prop := addr + len ≤ pageAddr addr len + count

def MemDevOp.changed : MemDevOp → Nat
  | .read _ _ => 0
  | .write _ len => len % 2 ^ 16
  | .erase _ size => size

/-- A page has a byte of a range. -/
def Page.Holds (page : Page) (addr size : Nat) : Prop :=
  ∃ index < page.data.length, addr ≤ page.offset + index ∧ page.offset + index < addr + size

/-- Some page has a byte of the range. -/
def Overlapped (pages : List Page) (addr size : Nat) : Prop :=
  ∃ page ∈ pages, page.Holds addr size

namespace CachedDevice

/-- What is asked of a change: if it takes effect on cached bytes, a try is answered, and the end
of the range does not wrap. -/
def ChangeSettled (device : CachedDevice) (call : DeviceCall) (addr size : Nat) : Prop :=
  Overlapped device.pages addr call.op.changed →
    (∃ index, call.Made index ∧ (call.tries index).applied = true) →
      (∃ index count, call.Made index ∧ call.tries index = .answered count) ∧
        addr + size < 2 ^ 32

/-- What is asked of a call: its tries have their own answers, a read is not answered with enough
data after a failed try, there is a page to fill, and a change is settled. -/
def Settled (device : CachedDevice) (call : DeviceCall) : Prop :=
  call.op.valid = true →
    match call.op with
    | .read addr len =>
      lookUp device.pages addr len = none →
        call.OwnAnswers ∧ ∀ index count, call.Made index → call.tries index = .answered count →
          enough addr len count → index = 0 ∧ device.pages ≠ []
    | .write addr len => call.OwnAnswers ∧ device.ChangeSettled call addr len
    | .erase addr size => call.OwnAnswers ∧ device.ChangeSettled call addr size

/-- A read that succeeds returns what a direct read returns, and it succeeds when a try is answered
with enough data. -/
def Truthful (device : CachedDevice) (call : DeviceCall) : Prop :=
  match call.op with
  | .read addr len =>
    (∀ data, (device.callDevice call).1 = some data → data = direct device.content addr len) ∧
      (call.op.valid = true → ∀ index count, call.Made index →
        call.tries index = .answered count → enough addr len count →
          (device.callDevice call).1 ≠ none)
  | _ => True

end CachedDevice

/-! ## Pages that agree with the device -/

/-- The cells have what the device has. -/
def Fresh (content : Nat → UInt8) (data : List Cell) : Prop :=
  ∀ cell ∈ data, cell.value = content cell.address

/-- Every page holds the bytes of the device at its own place. -/
structure Coherent (content : Nat → UInt8) (pages : List Page) : Prop where
  right : RightPages pages
  fresh : ∀ page ∈ pages, Fresh content page.data

theorem fresh_cellsFrom (content : Nat → UInt8) (address count : Nat) :
    Fresh content (cellsFrom address (direct content address count)) := by
  intro cell listed
  obtain ⟨index, found⟩ := mem_iff_getElem?.mp listed
  rw [cellsFrom, getElem?_mapIdx, map_eq_some_iff] at found
  obtain ⟨value, sent, rfl⟩ := found
  rw [direct, getElem?_map, map_eq_some_iff] at sent
  obtain ⟨place, ranged, rfl⟩ := sent
  obtain ⟨inside, same⟩ := List.getElem?_eq_some_iff.mp ranged
  rw [getElem_range] at same
  subst same
  rfl

variable {content : Nat → UInt8} {data : List Cell} {pages : List Page}
  {before after : Nat → UInt8} {call : DeviceCall}

theorem direct_of_fresh {addr : Nat} (right : RightAt addr data) (fresh : Fresh content data) :
    data.map Cell.value = direct content addr data.length := by
  apply ext_getElem?
  intro index
  rw [getElem?_map, direct, getElem?_map]
  by_cases inside : index < data.length
  · rw [getElem?_eq_getElem inside, getElem?_range inside]
    have place := right index _ (getElem?_eq_getElem inside)
    have value := fresh _ (getElem_mem inside)
    simp only [map_some, value, place]
  · rw [getElem?_eq_none (by omega), getElem?_eq_none (by simpa using inside)]
    rfl

theorem length_lookUp {pages after : List Page} {addr len : Nat}
    (found : lookUp pages addr len = some (data, after)) : data.length = len := by
  simp only [lookUp, map_eq_some_iff, Prod.mk.injEq] at found
  obtain ⟨page, hit, rfl, -⟩ := found
  have covers := find?_some hit
  simp only [Page.covers, Bool.and_eq_true, decide_eq_true_eq] at covers
  rw [length_take, length_drop]
  omega

theorem Coherent.lookUp {pages after : List Page} {addr len : Nat} (coherent : Coherent content pages)
    (found : lookUp pages addr len = some (data, after)) :
    data.map Cell.value = direct content addr len ∧ Coherent content after := by
  obtain ⟨right, rightAfter⟩ := coherent.right.lookUp found
  have length := length_lookUp found
  have listed : ∀ page ∈ after, page ∈ pages := by
    simp only [Obmf.lookUp, map_eq_some_iff, Prod.mk.injEq] at found
    obtain ⟨page, hit, -, rfl⟩ := found
    intro other inside
    rcases List.mem_cons.mp inside with rfl | rest
    · exact mem_of_find?_eq_some hit
    · exact mem_of_mem_eraseP rest
  have fresh : Fresh content data := by
    simp only [Obmf.lookUp, map_eq_some_iff, Prod.mk.injEq] at found
    obtain ⟨page, hit, rfl, -⟩ := found
    intro cell inside
    exact coherent.fresh page (mem_of_find?_eq_some hit) cell
      (mem_of_mem_drop (mem_of_mem_take inside))
  refine ⟨?_, rightAfter, fun page inside => coherent.fresh page (listed page inside)⟩
  rw [direct_of_fresh right fresh, length]

theorem Coherent.fillPage {offset : Nat} (coherent : Coherent content pages) (right : RightAt offset data)
    (fresh : Fresh content data) : Coherent content (fillPage pages offset data) where
  right := coherent.right.fillPage right
  fresh := by
    unfold Obmf.fillPage
    split
    · exact fun _ listed => absurd listed not_mem_nil
    · intro page inside
      rcases List.mem_cons.mp inside with rfl | rest
      · exact fun cell listed => fresh cell (mem_of_mem_take listed)
      · exact coherent.fresh page (dropLast_subset _ rest)

/-- Nothing outside of a range is changed. -/
def ChangedWithin (before after : Nat → UInt8) (addr size : Nat) : Prop :=
  ∀ place, place < addr ∨ addr + size ≤ place → after place = before place

theorem Fresh.outside {addr size : Nat} {page : Page}
    (fresh : Fresh before page.data) (right : RightAt page.offset page.data)
    (changed : ChangedWithin before after addr size)
    (apart : ¬ page.Holds addr size) : Fresh after page.data := by
  intro cell listed
  obtain ⟨index, found⟩ := mem_iff_getElem?.mp listed
  have place := right index cell found
  have inside := (List.getElem?_eq_some_iff.mp found).1
  have outside : cell.address < addr ∨ addr + size ≤ cell.address := by
    by_contra held
    exact apart ⟨index, inside, by omega, by omega⟩
  rw [changed cell.address outside]
  exact fresh cell listed

theorem Coherent.apart {addr size : Nat}
    (coherent : Coherent before pages) (changed : ChangedWithin before after addr size)
    (apart : ¬ Overlapped pages addr size) : Coherent after pages where
  right := coherent.right
  fresh page listed := (coherent.fresh page listed).outside (coherent.right page listed) changed
    fun overlap => apart ⟨page, listed, overlap⟩

theorem Coherent.dropCache {addr size finish : Nat} (coherent : Coherent before pages)
    (changed : ChangedWithin before after addr size) (covers : addr + size ≤ finish) :
    Coherent after (dropCache pages addr finish) where
  right := coherent.right.dropCache addr finish
  fresh page inside := by
    rcases List.mem_append.mp inside with kept | dropped
    · obtain ⟨listed, stays⟩ := List.mem_filter.mp kept
      apply (coherent.fresh page listed).outside (coherent.right page listed) changed
      simp only [Bool.or_eq_true, decide_eq_true_eq] at stays
      rintro ⟨index, held, above, below⟩
      omega
    · obtain ⟨old, -, rfl⟩ := List.mem_map.mp dropped
      exact fun cell listed => absurd listed not_mem_nil

theorem Coherent.drop (coherent : Coherent content pages)
    (addr finish : Nat) : Coherent content (Obmf.dropCache pages addr finish) where
  right := coherent.right.dropCache addr finish
  fresh page inside := by
    rcases List.mem_append.mp inside with kept | dropped
    · exact coherent.fresh page (mem_of_mem_filter kept)
    · obtain ⟨old, -, rfl⟩ := List.mem_map.mp dropped
      exact fun cell listed => absurd listed not_mem_nil

/-! ## Tries -/

/-- A try is made when the tries start at an index with so many left. -/
def DeviceCall.MadeFrom (call : DeviceCall) (index left made : Nat) : Prop :=
  index ≤ made ∧ made < index + left ∧
    ∀ earlier, index ≤ earlier → earlier < made → ∃ applied, call.tries earlier = .failed applied

theorem DeviceCall.made_iff {made : Nat} :
    call.Made made ↔ call.MadeFrom 0 requestMaxRetry made := by
  simp [DeviceCall.Made, DeviceCall.MadeFrom]

theorem DeviceCall.MadeFrom.later {index left made : Nat} {applied : Bool}
    (failed : call.tries index = .failed applied) (behind : call.MadeFrom (index + 1) left made) :
    call.MadeFrom index (left + 1) made := by
  obtain ⟨after, inside, earlierFailed⟩ := behind
  refine ⟨by omega, by omega, fun earlier above below => ?_⟩
  by_cases first : earlier = index
  · exact ⟨applied, first ▸ failed⟩
  · exact earlierFailed earlier (by omega) below

theorem DeviceCall.MadeFrom.cases {index left made : Nat}
    (found : call.MadeFrom index (left + 1) made) :
    made = index ∨ ((∃ applied, call.tries index = .failed applied) ∧
      call.MadeFrom (index + 1) left made) := by
  obtain ⟨after, inside, earlierFailed⟩ := found
  by_cases first : made = index
  · exact .inl first
  · refine .inr ⟨earlierFailed index le_rfl (by omega), by omega, by omega, fun earlier above => ?_⟩
    exact earlierFailed earlier (by omega)

/-- The tries from an index on have their own answers. -/
def DeviceCall.OwnFrom (call : DeviceCall) (index left : Nat) : Prop :=
  ∀ made applied data, call.MadeFrom index left made → call.tries made ≠ .late applied data

theorem DeviceCall.OwnAnswers.from (own : call.OwnAnswers) : call.OwnFrom 0 requestMaxRetry :=
  fun made applied data found => own made applied data (call.made_iff.mpr found)

theorem DeviceCall.OwnFrom.later {index left : Nat} {applied : Bool}
    (own : call.OwnFrom index (left + 1)) (failed : call.tries index = .failed applied) :
    call.OwnFrom (index + 1) left :=
  fun made taken data behind => own made taken data (behind.later failed)

theorem DeviceCall.OwnFrom.first {index left : Nat} {applied : Bool} {data : List Cell}
    (own : call.OwnFrom index (left + 1)) : call.tries index ≠ .late applied data :=
  own index applied data
    ⟨le_rfl, by omega, fun earlier above below => absurd above (by omega)⟩

/-- A call changes the range of a write or an erase. -/
inductive MemDevOp.Changes : MemDevOp → Nat → Nat → Prop where
  | write (addr len : Nat) : Changes (.write addr len) addr len
  | erase (addr size : Nat) : Changes (.erase addr size) addr size

namespace CachedDevice

variable {call : DeviceCall} {addr len : Nat} {device : CachedDevice}

theorem attempts_read (op : call.op = .read addr len)
    (device : CachedDevice) (coherent : Coherent device.content device.pages)
    (pending : device.pendingPageRead = true → device.pendingPageOffset = pageAddr addr len)
    {index left : Nat} (own : call.OwnFrom index left) :
    (device.attempts call index left).2.content = device.content ∧
      Coherent device.content (device.attempts call index left).2.pages := by
  have kept : ∀ content, call.apply content = content := by simp [DeviceCall.apply, op]
  induction left generalizing device index with
  | zero => exact ⟨rfl, coherent⟩
  | succ left ih =>
    rw [attempts]
    cases outcome : call.tries index with
    | netDown => exact ⟨rfl, coherent⟩
    | failed applied =>
      simp only [sendAndWait, kept, ite_self]
      exact ih { device with pendingPageRead := false } coherent (fun set => absurd set (by simp))
        (own.later outcome)
    | late applied data => exact absurd outcome own.first
    | answered count =>
      simp only [sendAndWait, handleMemDevResponse, kept]
      refine ⟨trivial, ?_⟩
      split
      · rename_i fills
        rw [pending fills.2]
        apply coherent.fillPage
        · simp only [payload, op, MemDevOp.request]
          exact rightAt_cellsFrom _ _
        · simp only [payload, op]
          exact fresh_cellsFrom _ _ _
      · exact coherent

theorem apply_apply (call : DeviceCall) (content : Nat → UInt8) :
    call.apply (call.apply content) = call.apply content := by
  unfold DeviceCall.apply
  cases call.op with
  | read addr len => rfl
  | write addr len =>
    funext place
    simp only
    split <;> rfl
  | erase addr size =>
    funext place
    simp only
    split <;> rfl

theorem changedWithin_apply {addr size : Nat}
    (changes : call.op.Changes addr size) (content : Nat → UInt8) :
    ChangedWithin content (call.apply content) addr call.op.changed ∧ call.op.changed ≤ size := by
  obtain ⟨op, data, tries⟩ := call
  cases changes with
  | write =>
    refine ⟨fun place outside => ?_, Nat.mod_le _ _⟩
    exact if_neg (by rintro ⟨above, below⟩; simp only [MemDevOp.changed] at outside; omega)
  | erase =>
    refine ⟨fun place outside => ?_, le_rfl⟩
    exact if_neg (by rintro ⟨above, below⟩; simp only [MemDevOp.changed] at outside; omega)

/-- What the tries of a change come to. -/
structure Changed (device after : CachedDevice) (call : DeviceCall) (index left : Nat) : Prop where
  pages : after.pages = device.pages
  content : after.content = device.content ∨
    (after.content = call.apply device.content ∧
      ∃ made, call.MadeFrom index left made ∧ (call.tries made).applied = true)

theorem attempts_change (device : CachedDevice)
    (pending : device.pendingPageRead = false) (index left : Nat) :
    Changed device (device.attempts call index left).2 call index left := by
  induction left generalizing device index with
  | zero => exact ⟨rfl, .inl rfl⟩
  | succ left ih =>
    have first : call.MadeFrom index (left + 1) index :=
      ⟨le_rfl, by omega, fun earlier above below => absurd above (by omega)⟩
    rw [attempts]
    cases outcome : call.tries index with
    | netDown => exact ⟨rfl, .inl rfl⟩
    | failed applied =>
      have later := ih { device with
        content := if applied then call.apply device.content else device.content
        pendingPageRead := false } rfl (index + 1)
      refine ⟨later.pages, ?_⟩
      have took := later.content
      cases applied with
      | false =>
        rcases took with same | ⟨same, made, behind, effect⟩
        · exact .inl same
        · exact .inr ⟨same, made, behind.later outcome, effect⟩
      | true =>
        have effect : (call.tries index).applied = true := by rw [outcome]; rfl
        rcases took with same | ⟨same, -⟩
        · exact .inr ⟨same, index, first, effect⟩
        · exact .inr ⟨same.trans (apply_apply _ _), index, first, effect⟩
    | answered count =>
      have effect : (call.tries index).applied = true := by rw [outcome]; rfl
      refine ⟨?_, .inr ⟨rfl, index, first, effect⟩⟩
      simp only [sendAndWait, handleMemDevResponse, pending, Bool.false_eq_true, and_false,
        if_false]
    | late applied data =>
      refine ⟨?_, ?_⟩
      · simp only [sendAndWait, handleMemDevResponse, pending, Bool.false_eq_true, and_false,
          if_false]
      · cases applied with
        | false => exact .inl rfl
        | true => exact .inr ⟨rfl, index, first, by rw [outcome]; rfl⟩

theorem attempts_content (device : CachedDevice) {index left : Nat}
    (own : call.OwnFrom index left) (ok : (device.attempts call index left).1 = .ok) :
    (device.attempts call index left).2.content = call.apply device.content := by
  induction left generalizing device index with
  | zero => cases ok
  | succ left ih =>
    rw [attempts] at ok ⊢
    cases outcome : call.tries index with
    | netDown => simp [outcome, sendAndWait] at ok
    | failed applied =>
      simp only [outcome, sendAndWait] at ok ⊢
      rw [ih _ (own.later outcome) ok]
      cases applied with
      | false => rfl
      | true => exact apply_apply call device.content
    | late applied data => exact absurd outcome own.first
    | answered count => rfl

theorem attempts_ok (device : CachedDevice) {index left made count : Nat}
    (found : call.MadeFrom index left made) (answered : call.tries made = .answered count) :
    (device.attempts call index left).1 = .ok := by
  induction left generalizing device index with
  | zero =>
    obtain ⟨above, below, -⟩ := found
    omega
  | succ left ih =>
    rw [attempts]
    rcases found.cases with rfl | ⟨⟨applied, failed⟩, behind⟩
    · rw [answered]
      rfl
    · rw [failed]
      exact ih _ behind

/-! ## Calls -/

theorem lookAgain_succ (device : CachedDevice) (addr len left : Nat) :
    device.lookAgain addr len (left + 1) =
      match lookUp device.pages addr len with
      | some (data, pages) => (some data, { device with pages := pages })
      | none => (none, device) := by
  induction left with
  | zero => rfl
  | succ left ih =>
    rw [lookAgain, ih]
    cases lookUp device.pages addr len <;> rfl

theorem pageAddr_le (addr len : Nat) : pageAddr addr len ≤ addr := by
  unfold pageAddr
  split
  · exact le_rfl
  · exact Nat.div_mul_le_self _ _

theorem le_pageAddr (small : len ≤ memDevPageSize) :
    addr + len ≤ pageAddr addr len + memDevPageSize := by
  unfold pageAddr
  have parts := Nat.div_add_mod addr memDevPageSize
  have order := Nat.mul_comm memDevPageSize (addr / memDevPageSize)
  split <;> omega

theorem lookUp_fillPage {content : Nat → UInt8} {pages : List Page} {addr len count : Nat}
    (some' : pages ≠ []) (positive : len ≠ 0) (small : len ≤ memDevPageSize)
    (covers : enough addr len count) :
    lookUp (fillPage pages (pageAddr addr len) (cellsFrom (pageAddr addr len)
      (direct content (pageAddr addr len) count))) addr len ≠ none := by
  have before := pageAddr_le addr len
  have within := @le_pageAddr addr len small
  have length : (cellsFrom (pageAddr addr len)
      (direct content (pageAddr addr len) count)).length = count := by
    simp [cellsFrom, direct]
  unfold enough at covers
  rw [fillPage, if_neg some', lookUp, find?_cons_of_pos]
  · simp
  · simp only [Page.covers, length_take, length, Bool.and_eq_true, decide_eq_true_eq]
    omega

theorem lookAgain_coherent (coherent : Coherent device.content device.pages) (left : Nat) :
    (∀ data, (device.lookAgain addr len left).1 = some data →
        data.map Cell.value = direct device.content addr len) ∧
      (device.lookAgain addr len left).2.content = device.content ∧
        Coherent device.content (device.lookAgain addr len left).2.pages := by
  induction left with
  | zero => exact ⟨fun data none => absurd none (by simp [lookAgain]), rfl, coherent⟩
  | succ left ih =>
    rw [lookAgain]
    cases found : lookUp device.pages addr len with
    | none => exact ih
    | some hit =>
      obtain ⟨same, kept⟩ := coherent.lookUp found
      refine ⟨fun other returned => ?_, rfl, kept⟩
      cases returned
      exact same

/-- A read returns what a direct read returns, and leaves the device as it is and the cache
coherent. -/
theorem memDevRead_coherent
    (op : call.op = .read addr len) (coherent : Coherent device.content device.pages)
    (own : lookUp device.pages addr len = none → call.OwnAnswers) :
    (∀ data, (device.memDevRead call addr len).1 = some data →
        data.map Cell.value = direct device.content addr len) ∧
      (device.memDevRead call addr len).2.content = device.content ∧
        Coherent device.content (device.memDevRead call addr len).2.pages := by
  rw [memDevRead]
  cases found : lookUp device.pages addr len with
  | some hit =>
    obtain ⟨same, kept⟩ := coherent.lookUp found
    refine ⟨fun other returned => ?_, rfl, kept⟩
    cases returned
    exact same
  | none =>
    have tried := attempts_read op
      { device with pendingPageRead := true, pendingPageOffset := pageAddr addr len } coherent
      (fun _ => rfl) (own found).from
    simp only
    revert tried
    rcases attempts { device with
      pendingPageRead := true, pendingPageOffset := pageAddr addr len } call 0 requestMaxRetry with
      ⟨waited, after⟩
    rintro ⟨content, kept⟩
    cases waited with
    | ok =>
      rw [← content] at kept ⊢
      exact lookAgain_coherent kept 9
    | netDown => exact ⟨fun data none => absurd none (by simp), content, kept⟩
    | error => exact ⟨fun data none => absurd none (by simp), content, kept⟩

/-- A read whose first try is answered with enough data succeeds. -/
theorem memDevRead_ne_none {addr len count : Nat}
    (op : call.op = .read addr len) (valid : call.op.valid = true)
    (answered : call.tries 0 = .answered count) (covers : enough addr len count)
    (some' : lookUp device.pages addr len = none → device.pages ≠ []) :
    (device.memDevRead call addr len).1 ≠ none := by
  rw [memDevRead]
  cases found : lookUp device.pages addr len with
  | some hit => simp
  | none =>
    simp only [op, MemDevOp.valid, Bool.and_eq_true, decide_eq_true_eq] at valid
    have before := pageAddr_le addr len
    have filled := @lookUp_fillPage device.content _ _ _ _ (some' found) valid.1.1 valid.1.2 covers
    have data : payload { device with
        pendingPageRead := true, pendingPageOffset := pageAddr addr len } call count =
          cellsFrom (pageAddr addr len) (direct device.content (pageAddr addr len) count) := by
      simp [payload, op, MemDevOp.request]
    have sent : cellsFrom (pageAddr addr len)
        (direct device.content (pageAddr addr len) count) ≠ [] := by
      intro empty
      have length := congrArg List.length empty
      simp only [cellsFrom, direct, length_mapIdx, length_map, length_range,
        length_nil] at length
      unfold enough at covers
      omega
    simp only [requestMaxRetry, attempts, answered, sendAndWait, handleMemDevResponse, data]
    rw [lookAgain_succ]
    simp only [if_pos (show _ ∧ True from ⟨sent, trivial⟩)]
    cases found' : lookUp (fillPage device.pages (pageAddr addr len) (cellsFrom (pageAddr addr len)
      (direct device.content (pageAddr addr len) count))) addr len with
    | none => exact absurd found' filled
    | some hit => simp

theorem memDevChange_coherent {addr size : Nat}
    (changes : call.op.Changes addr size) (coherent : Coherent device.content device.pages)
    (settled : device.ChangeSettled call addr size) :
    Coherent (device.memDevChange call addr size).content
      (device.memDevChange call addr size).pages := by
  have within := changedWithin_apply changes device.content
  have tried := @attempts_change call { device with pendingPageRead := false } rfl 0
    requestMaxRetry
  have succeeded := fun index count (found : call.MadeFrom 0 requestMaxRetry index)
    (answered : call.tries index = .answered count) =>
      attempts_ok { device with pendingPageRead := false } found answered
  rw [memDevChange]
  revert tried succeeded
  rcases attempts { device with pendingPageRead := false } call 0 requestMaxRetry with
    ⟨waited, after⟩
  intro tried succeeded
  have pages : after.pages = device.pages := tried.pages
  -- what is dropped matters only where the change took effect on cached bytes
  rcases tried.content with same | ⟨applied, effect⟩
  · have kept : Coherent after.content after.pages := by
      rw [pages, same]
      exact coherent
    cases waited with
    | ok => exact kept.drop _ _
    | netDown => exact kept
    | error => exact kept
  · by_cases overlapped : Overlapped device.pages addr call.op.changed
    · obtain ⟨made, found, took⟩ := effect
      obtain ⟨⟨index, count, answeredMade, answered⟩, ends⟩ :=
        settled overlapped ⟨made, call.made_iff.mpr found, took⟩
      obtain rfl : waited = .ok := succeeded index count (call.made_iff.mp answeredMade) answered
      have content : after.content = call.apply device.content := applied
      simp only [pages, content]
      apply coherent.dropCache within.1
      omega
    · have kept : Coherent after.content after.pages := by
        rw [pages, applied]
        exact coherent.apart within.1 overlapped
      cases waited with
      | ok => exact kept.drop _ _
      | netDown => exact kept
      | error => exact kept

theorem Settled.own_of_read (settled : device.Settled call) (op : call.op = .read addr len)
    (valid : call.op.valid = true) : lookUp device.pages addr len = none → call.OwnAnswers := by
  have asked := settled valid
  rw [op] at asked
  exact fun missed => (asked missed).1

theorem content_of_read
    (op : call.op = .read addr len) (coherent : Coherent device.content device.pages)
    (settled : device.Settled call) : (device.callDevice call).2.content = device.content := by
  rw [callDevice]
  split
  · rfl
  · rename_i valid
    simp only [op]
    exact (memDevRead_coherent op coherent (settled.own_of_read op (by simpa using valid))).2.1

theorem content_of_changeReturns {addr size : Nat} (changes : call.op.Changes addr size)
    (settled : device.Settled call) (returns : device.changeReturns call = true) :
    (device.callDevice call).2.content = call.apply device.content := by
  rw [changeReturns, Bool.and_eq_true, decide_eq_true_eq] at returns
  obtain ⟨valid, ok⟩ := returns
  have own : call.OwnAnswers := by
    have asked := settled valid
    obtain ⟨op, data, tries⟩ := call
    cases changes with
    | write => exact asked.1
    | erase => exact asked.1
  have content := attempts_content { device with pendingPageRead := false } own.from ok
  have changed : (device.memDevChange call addr size).content = call.apply device.content := by
    rw [← content, memDevChange]
    split
    · rename_i tries
      rw [tries]
    · rename_i others tries
      rw [tries]
  rw [callDevice, if_neg (by simp [valid])]
  obtain ⟨op, data, tries⟩ := call
  cases changes with
  | write => exact changed
  | erase => exact changed

/-! ## Runs -/

/-- A settled call keeps the pages coherent with the device. -/
theorem coherent_step {device after : CachedDevice}
    (coherent : Coherent device.content device.pages) (settled : device.Settled call)
    (moved : device.step call = some after) : Coherent after.content after.pages := by
  cases moved
  rw [callDevice]
  cases valid : call.op.valid with
  | false => exact coherent
  | true =>
    have asked := settled valid
    rw [if_neg (by simp)]
    cases op : call.op with
    | read addr len =>
      obtain ⟨-, content, kept⟩ := memDevRead_coherent op coherent (settled.own_of_read op valid)
      rw [content]
      exact kept
    | write addr len =>
      rw [op] at asked
      exact memDevChange_coherent (op ▸ .write addr len) coherent asked.2
    | erase addr size =>
      rw [op] at asked
      exact memDevChange_coherent (op ▸ .erase addr size) coherent asked.2

/-- A settled call on coherent pages tells what the device has. -/
theorem truthful_step {device after : CachedDevice}
    (coherent : Coherent device.content device.pages) (settled : device.Settled call)
    (_ : device.step call = some after) : device.Truthful call := by
  unfold Truthful
  cases op : call.op with
  | read addr len =>
    refine ⟨fun data returned => ?_, fun valid index count made answered covers => ?_⟩
    · rw [callDevice] at returned
      split at returned
      · cases returned
      · rename_i valid
        simp only [op, map_eq_some_iff] at returned
        obtain ⟨cells, read, rfl⟩ := returned
        have own := settled.own_of_read op (by simpa [op] using valid)
        exact (memDevRead_coherent op coherent own).1 cells read
    · have asked := settled (op ▸ valid)
      rw [op] at asked
      rw [callDevice, if_neg (by simp [op, valid])]
      simp only [op, ne_eq, map_eq_none_iff]
      cases found : lookUp device.pages addr len with
      | some hit =>
        rw [memDevRead, found]
        simp
      | none =>
        obtain ⟨rfl, some'⟩ := (asked found).2 index count made answered covers
        exact memDevRead_ne_none op (op ▸ valid) answered covers fun _ => some'
  | write addr len => trivial
  | erase addr size => trivial

theorem coherent_init (content : Nat → UInt8) (pages : Nat) :
    Coherent content (init content pages).pages where
  right page listed := by
    obtain rfl := eq_of_mem_replicate listed
    exact rightAt_nil 0
  fresh page listed := by
    obtain rfl := eq_of_mem_replicate listed
    exact fun cell inside => absurd inside not_mem_nil

/-- No call stops a run. -/
theorem exists_run (device : CachedDevice) (calls : List DeviceCall) :
    ∃ final, run step device calls = some final := by
  induction calls generalizing device with
  | nil => exact ⟨device, rfl⟩
  | cons call rest ih =>
    obtain ⟨final, ran⟩ := ih (device.callDevice call).2
    exact ⟨final, run_cons_eq_some.mpr ⟨_, rfl, ran⟩⟩

/-- In a history whose calls are all settled, every read that succeeds returns what a direct read
of the device returns, and every read with a try that is answered with enough data succeeds. -/
theorem reads_truthful (content : Nat → UInt8) (pages : Nat) (calls : List DeviceCall)
    (settled : Meets step Settled (init content pages) calls) :
    Meets step Truthful (init content pages) calls := by
  obtain ⟨final, ran⟩ := exists_run (init content pages) calls
  exact @Meets.of_invariant _ _ step Settled
    (fun device => Coherent device.content device.pages) Truthful coherent_step truthful_step
    _ _ _ (coherent_init content pages) settled ran

def readFour (tries : Nat → Try) : DeviceCall := ⟨.read 0 4, fun _ => 0, tries⟩

def writeFour (tries : Nat → Try) : DeviceCall := ⟨.write 0 4, fun _ => 1, tries⟩

/-- A write and a read, both answered at once. -/
theorem reads_truthful_answered :
    Meets step Truthful (init (fun _ => 0) 5)
      [writeFour fun _ => .answered 0, readFour fun _ => .answered 960] := by
  apply reads_truthful
  have own : ∀ call : DeviceCall, (∃ count, call.tries = fun _ => .answered count) →
      call.OwnAnswers := by
    rintro call ⟨count, answered⟩ index applied data -
    simp [answered]
  refine ⟨fun _ => ⟨own _ ⟨0, rfl⟩, fun overlapped => ?_⟩,
    fun _ _ => ⟨own _ ⟨960, rfl⟩, fun index count made _ _ => ⟨?_, by decide⟩⟩, trivial⟩
  · obtain ⟨page, listed, index, inside, -⟩ := overlapped
    obtain rfl := eq_of_mem_replicate listed
    exact absurd inside (Nat.not_lt_zero index)
  · by_contra later
    obtain ⟨applied, failed⟩ := made.2 0 (by omega)
    cases failed

/-- A write that took effect although it was reported to have failed leaves the old bytes in the
cache, a read that is answered at the second try only fails, and one that the response to an earlier
read comes to returns its bytes. -/
theorem reads_untruthful :
    ¬ Meets step Truthful (init (fun _ => 0) 5)
        [readFour fun _ => .answered 8, writeFour fun _ => .failed true,
          readFour fun _ => .answered 8] ∧
      ¬ Meets step Truthful (init (fun _ => 0) 5)
        [readFour fun index => if index = 0 then .failed false else .answered 8] ∧
      ¬ Meets step Truthful (init (fun place => if place < 960 then 0 else 7) 5)
        [⟨.read 960 4, fun _ => 0, fun _ => .failed false⟩,
          readFour fun _ => .late false (cellsFrom 960 [7, 7, 7, 7])] := by
  refine ⟨?_, ?_, ?_⟩
  · intro meets
    have last := ((meets.tail rfl).2.tail rfl).2.1
    have returned := last.1 [0, 0, 0, 0] (by decide +kernel)
    exact absurd returned (by decide +kernel)
  · intro meets
    apply meets.1.2 (by decide) 1 8 ⟨by decide, fun earlier first => ?_⟩ rfl
      (by unfold enough; decide)
    · decide +kernel
    · obtain rfl : earlier = 0 := by omega
      exact ⟨false, rfl⟩
  · intro meets
    have returned := (meets.tail rfl).2.1.1 [7, 7, 7, 7] (by decide +kernel)
    exact absurd returned (by decide +kernel)

end CachedDevice

end OpenBic.Obmf
