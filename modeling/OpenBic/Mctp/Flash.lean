import OpenBic.Library.Checked

/-!
# Flash pages over MCTP

`mctp_flash.c`: the list of cached pages, the handler of the flash messages, and the three calls
that send a request and wait for a message. The messages that arrive while a call waits are given
with the call; a call that waits for a message that never arrives does not return, and a copy from
outside a page comes to nothing.
-/

namespace OpenBic.Mctp.Flash

open List Option Library.Checked

def pageSize : Nat := 960

def flashPageListLen : Nat := 5

/-- `MCTP_FLASH_READ | MCTP_FLASH_CMD_RESP`. -/
def flashReadResp : UInt8 := 0x80

/-- `struct flash_page`. -/
structure FlashPage where
  offset : Nat
  len : Nat
  buf : Buffer pageSize

/-- `struct mctp_flash_msg`, with the bytes behind it. -/
structure FlashMsg where
  cmd : UInt8
  offset : Nat
  len : Nat
  data : List UInt8

/-- What the flash calls share with the handler. -/
structure FlashCache where
  pages : List FlashPage
  /-- `mctp_flash_msgq` holds a completion. -/
  msgq : Bool

/-- `mctp_flash_init`. -/
def FlashCache.init : FlashCache :=
  { pages := List.replicate flashPageListLen ⟨0, 0, Buffer.zero pageSize⟩, msgq := false }

def FlashCache.msgHandler (cache : FlashCache) (msg : FlashMsg) : Option FlashCache :=
  if pageSize < msg.data.length then some cache
  else if msg.cmd = flashReadResp then
    match cache.pages.getLast? with
    | none => none
    | some page => do
      let buf ← page.buf.write 0 msg.data
      some { pages := ⟨msg.offset, msg.len, buf⟩ :: cache.pages.dropLast, msgq := true }
  else some { cache with msgq := true }

/-- `k_msgq_get` without a timeout, while messages arrive. -/
def FlashCache.wait (cache : FlashCache) (arrivals : List FlashMsg) : Option FlashCache := do
  let cache ← arrivals.foldlM FlashCache.msgHandler cache
  if cache.msgq then some { cache with msgq := false } else none

def FlashPage.covers (page : FlashPage) (offset len : Nat) : Bool :=
  page.offset ≤ offset && (offset + len) % 2 ^ 32 ≤ (page.offset + page.len) % 2 ^ 32

/-- The lookup in the cache: the bytes copied, and the list with their page in front. -/
def lookUp (pages : List FlashPage) (offset len : Nat) :
    Option (Option (List UInt8 × List FlashPage)) :=
  match pages.find? (·.covers offset len) with
  | none => some none
  | some page => do
    let bytes ← page.buf.read (offset - page.offset) len
    some (some (bytes, page :: pages.eraseP (·.covers offset len)))

/-- The loop of `mctp_flash_read` from a wait on, with so many retries left. -/
def FlashCache.copyPage (cache : FlashCache) (offset len : Nat) (arrivals : Nat → List FlashMsg)
    (index : Nat) : Nat → Option (Option (List UInt8) × FlashCache)
  | 0 => do
    match ← lookUp cache.pages offset len with
    | some (bytes, pages) => some (some bytes, { cache with pages })
    | none =>
      let cache ← cache.wait (arrivals index)
      some (none, cache)
  | retry + 1 => do
    match ← lookUp cache.pages offset len with
    | some (bytes, pages) => some (some bytes, { cache with pages })
    | none =>
      let cache ← cache.wait (arrivals index)
      cache.copyPage offset len arrivals (index + 1) retry

/-- `mctp_flash_read`: the bytes copied into the caller's buffer. -/
def FlashCache.read (cache : FlashCache) (offset len : Nat) (arrivals : Nat → List FlashMsg) :
    Option (Option (List UInt8) × FlashCache) :=
  if pageSize < len then some (none, cache) else cache.copyPage offset len arrivals 0 10

def dropFlashCache (pages : List FlashPage) (start finish : Nat) : List FlashPage :=
  let stays (page : FlashPage) : Bool :=
    (page.offset + page.len) % 2 ^ 32 ≤ start || finish < page.offset
  pages.filter stays ++ (pages.filter (!stays ·)).map fun page =>
    { page with offset := 0, len := 0 }

/-- `mctp_flash_write`, with whether there is memory for the request. -/
def FlashCache.write (cache : FlashCache) (offset len : Nat) (malloc : Bool)
    (arrivals : List FlashMsg) : Option FlashCache :=
  if malloc then
    { cache with pages := dropFlashCache cache.pages offset ((offset + len) % 2 ^ 32) }.wait
      arrivals
  else some cache

/-- `erase_sz`. -/
def eraseSize (len : Nat) : Nat := if len = 0 then 4096 else 4096 * 8 * len

/-- `mctp_flash_erase`. -/
def FlashCache.erase (cache : FlashCache) (offset len : Nat) (arrivals : List FlashMsg) :
    Option FlashCache :=
  if 3 < len then some cache
  else
    { cache with
      pages := dropFlashCache cache.pages offset ((offset + eraseSize len) % 2 ^ 32) }.wait arrivals

/-! ## Pages that agree with the flash -/

/-- A page holds the bytes of the flash. -/
structure FlashPage.Holds (content : Nat → UInt8) (page : FlashPage) : Prop where
  small : page.len ≤ pageSize
  bounded : page.offset + page.len < 2 ^ 32
  bytes : ∀ index < page.len, page.buf.bytes.getD index 0 = content (page.offset + index)

/-- A list of pages that hold the bytes of the flash. -/
structure Coherent (content : Nat → UInt8) (pages : List FlashPage) : Prop where
  listed : pages ≠ []
  holds : ∀ page ∈ pages, page.Holds content

/-- A message brings no page, or one with the bytes of the flash. -/
structure FlashMsg.Sound (content : Nat → UInt8) (msg : FlashMsg) : Prop where
  small : msg.data.length ≤ pageSize
  sized : msg.cmd = flashReadResp → msg.len = msg.data.length
  bounded : msg.cmd = flashReadResp → msg.offset + msg.len < 2 ^ 32
  bytes : msg.cmd = flashReadResp →
    ∀ index < msg.len, msg.data.getD index 0 = content (msg.offset + index)

variable {content : Nat → UInt8} {cache : FlashCache} {pages : List FlashPage} {offset len : Nat}

theorem holds_reset (buf : Buffer pageSize) : FlashPage.Holds content ⟨0, 0, buf⟩ where
  small := Nat.zero_le _
  bounded := Nat.two_pow_pos 32
  bytes index inside := absurd inside (Nat.not_lt_zero index)

theorem coherent_init (content : Nat → UInt8) : Coherent content FlashCache.init.pages where
  listed := by decide
  holds page listed := by
    obtain rfl := eq_of_mem_replicate listed
    exact holds_reset _

theorem msgHandler_sound {msg : FlashMsg} (coherent : Coherent content cache.pages)
    (sound : msg.Sound content) :
    ∃ after, cache.msgHandler msg = some after ∧ after.msgq = true ∧
      Coherent content after.pages ∧
      (msg.cmd = flashReadResp → after.pages.head?.map (fun page => (page.offset, page.len)) =
        some (msg.offset, msg.len)) := by
  have small := sound.small
  unfold FlashCache.msgHandler
  rw [if_neg (by omega)]
  by_cases answers : msg.cmd = flashReadResp
  · rw [if_pos answers]
    have last := getLast?_eq_some_getLast coherent.listed
    obtain ⟨buf, wrote, bytes⟩ := (cache.pages.getLast coherent.listed).buf.write_eq msg.data
      (show 0 + _ ≤ _ by omega)
    have sized := sound.sized answers
    simp only [last, wrote, bind_eq_bind, bind_some]
    refine ⟨_, rfl, rfl, ⟨cons_ne_nil _ _, ?_⟩, fun _ => rfl⟩
    intro page listed
    rcases List.mem_cons.mp listed with rfl | rest
    · refine ⟨by simp only; omega, sound.bounded answers, fun index inside => ?_⟩
      simp only at inside ⊢
      rw [bytes, getD_splice (by rw [Buffer.sized]; omega), if_pos (by omega)]
      exact sound.bytes answers index inside
    · exact coherent.holds page (dropLast_subset _ rest)
  · rw [if_neg answers]
    exact ⟨_, rfl, rfl, coherent, fun read => absurd read answers⟩

variable {arrivals : List FlashMsg} {page : FlashPage}

theorem msgHandlers_sound (coherent : Coherent content cache.pages)
    (sound : ∀ msg ∈ arrivals, msg.Sound content) :
    ∃ after, arrivals.foldlM FlashCache.msgHandler cache = some after ∧
      (arrivals ≠ [] → after.msgq = true) ∧ Coherent content after.pages ∧
      (∀ msg, arrivals.getLast? = some msg → msg.cmd = flashReadResp →
        after.pages.head?.map (fun page => (page.offset, page.len)) =
          some (msg.offset, msg.len)) := by
  induction arrivals generalizing cache with
  | nil =>
    exact ⟨cache, rfl, fun some => absurd rfl some, coherent, fun msg last => by simp at last⟩
  | cons msg rest ih =>
    obtain ⟨next, handled, waiting, kept, front⟩ :=
      msgHandler_sound coherent (sound msg mem_cons_self)
    obtain ⟨after, handledRest, waitingAfter, keptAfter, frontAfter⟩ :=
      ih kept fun other listed => sound other (mem_cons_of_mem _ listed)
    refine ⟨after, ?_, fun _ => ?_, keptAfter, fun last isLast => ?_⟩
    · rw [foldlM_cons, handled]
      exact handledRest
    · cases rest with
      | nil =>
        cases handledRest
        exact waiting
      | cons other others => exact waitingAfter (cons_ne_nil _ _)
    · cases rest with
      | nil =>
        cases handledRest
        cases isLast
        exact front
      | cons other others =>
        exact frontAfter last (by rw [← isLast, getLast?_cons_cons])

theorem wait_sound (coherent : Coherent content cache.pages)
    (sound : ∀ msg ∈ arrivals, msg.Sound content) (arrive : arrivals ≠ []) :
    ∃ after, cache.wait arrivals = some after ∧ Coherent content after.pages ∧
      (∀ msg, arrivals.getLast? = some msg → msg.cmd = flashReadResp →
        after.pages.head?.map (fun page => (page.offset, page.len)) =
          some (msg.offset, msg.len)) := by
  obtain ⟨after, handled, waiting, kept, front⟩ := msgHandlers_sound coherent sound
  refine ⟨{ after with msgq := false }, ?_, kept, front⟩
  simp only [FlashCache.wait, handled, bind_eq_bind, bind_some, waiting arrive,
    if_true]

theorem FlashPage.Holds.covers_iff (holds : page.Holds content) (bounded : offset + len < 2 ^ 32) :
    page.covers offset len = true ↔
      page.offset ≤ offset ∧ offset + len ≤ page.offset + page.len := by
  rw [FlashPage.covers, Bool.and_eq_true, decide_eq_true_eq, decide_eq_true_eq,
    Nat.mod_eq_of_lt bounded, Nat.mod_eq_of_lt holds.bounded]

theorem FlashPage.Holds.read (holds : page.Holds content)
    (above : page.offset ≤ offset) (below : offset + len ≤ page.offset + page.len) :
    page.buf.read (offset - page.offset) len =
      some ((List.range len).map fun index => content (offset + index)) := by
  have small := holds.small
  rw [Buffer.read_eq (by omega)]
  congr 1
  apply ext_getElem?
  intro index
  have size := page.buf.sized
  rw [getElem?_map, getElem?_take, getElem?_drop]
  by_cases inside : index < len
  · have byte := holds.bytes (offset - page.offset + index) (by omega)
    have place : page.offset + (offset - page.offset + index) = offset + index := by omega
    have within : offset - page.offset + index < page.buf.bytes.length := by omega
    rw [place, getD_eq_getElem _ _ within] at byte
    rw [if_pos inside, getElem?_range inside, getElem?_eq_getElem within, byte]
    rfl
  · rw [if_neg inside, getElem?_eq_none (by rw [length_range]; omega)]
    rfl

theorem lookUp_sound (coherent : Coherent content pages) (bounded : offset + len < 2 ^ 32) :
    (lookUp pages offset len = some none ∧ ∀ page ∈ pages, page.covers offset len = false) ∨
      ∃ after, lookUp pages offset len =
          some (some ((List.range len).map fun index => content (offset + index), after)) ∧
        Coherent content after := by
  unfold lookUp
  cases found : pages.find? (·.covers offset len) with
  | none =>
    refine .inl ⟨rfl, fun page listed => ?_⟩
    have misses := List.find?_eq_none.mp found page listed
    simpa using misses
  | some page =>
    have listed := mem_of_find?_eq_some found
    have holds := coherent.holds page listed
    have covers := find?_some found
    obtain ⟨above, below⟩ := (holds.covers_iff bounded).mp covers
    refine .inr ⟨page :: pages.eraseP (·.covers offset len), ?_, cons_ne_nil _ _, ?_⟩
    · simp only [holds.read above below, bind_eq_bind, bind_some]
    · intro other inside
      rcases List.mem_cons.mp inside with rfl | rest
      · exact holds
      · exact coherent.holds other (mem_of_mem_eraseP rest)

/-- A response has the range that is asked for. -/
def FlashMsg.Covers (msg : FlashMsg) (offset len : Nat) : Prop :=
  msg.cmd = flashReadResp ∧ msg.offset ≤ offset ∧ offset + len ≤ msg.offset + msg.len

/-- One of so many waits brings a page that covers a range, and no wait before it is in vain. -/
def Brought (arrivals : Nat → List FlashMsg) (offset len index waits : Nat) : Prop :=
  ∃ wait < waits, (∀ earlier ≤ wait, arrivals (index + earlier) ≠ []) ∧
    ∃ msg, (arrivals (index + wait)).getLast? = some msg ∧ msg.Covers offset len

/-- A range that is cached, or that a wait brings, is read. -/
theorem copyPage_sound {arrivals : Nat → List FlashMsg} {index retry : Nat}
    (coherent : Coherent content cache.pages) (bounded : offset + len < 2 ^ 32)
    (sound : ∀ wait, ∀ msg ∈ arrivals wait, msg.Sound content)
    (brought : (∃ page ∈ cache.pages, page.covers offset len = true) ∨
      Brought arrivals offset len index retry) :
    ∃ after, cache.copyPage offset len arrivals index retry =
        some (some ((List.range len).map fun index => content (offset + index)), after) ∧
      Coherent content after.pages := by
  induction retry generalizing cache index with
  | zero =>
    rcases lookUp_sound coherent bounded with ⟨-, misses⟩ | ⟨pages, found, kept⟩
    · rcases brought with ⟨page, listed, covers⟩ | ⟨wait, early, -⟩
      · rw [misses page listed] at covers
        cases covers
      · exact absurd early (Nat.not_lt_zero wait)
    · refine ⟨{ cache with pages }, ?_, kept⟩
      simp only [FlashCache.copyPage, found, bind_eq_bind, bind_some]
  | succ retry ih =>
    rcases lookUp_sound coherent bounded with ⟨missed, misses⟩ | ⟨pages, found, kept⟩
    · rcases brought with ⟨page, listed, covers⟩ | ⟨wait, early, arrive, msg, last, covers⟩
      · rw [misses page listed] at covers
        cases covers
      · obtain ⟨next, waited, kept, front⟩ :=
          wait_sound coherent (sound index) (arrive 0 (Nat.zero_le _))
        have onward : (∃ page ∈ next.pages, page.covers offset len = true) ∨
            Brought arrivals offset len (index + 1) retry := by
          cases wait with
          | zero =>
            obtain ⟨page, isFront, place⟩ := Option.map_eq_some_iff.mp (front msg last covers.1)
            simp only [Prod.mk.injEq] at place
            have listed := mem_of_mem_head? isFront
            refine .inl ⟨page, listed, ((kept.holds page listed).covers_iff bounded).mpr ?_⟩
            rw [place.1, place.2]
            exact covers.2
          | succ wait =>
            refine .inr ⟨wait, by omega, fun earlier before => ?_, msg, ?_, covers⟩
            · have arrives := arrive (earlier + 1) (by omega)
              rw [show index + (earlier + 1) = index + 1 + earlier by omega] at arrives
              exact arrives
            · rw [← last]
              congr 2
              omega
        obtain ⟨after, copied, keptAfter⟩ := ih kept onward
        refine ⟨after, ?_, keptAfter⟩
        simp only [FlashCache.copyPage, missed, waited, bind_eq_bind, bind_some]
        exact copied
    · refine ⟨{ cache with pages }, ?_, kept⟩
      simp only [FlashCache.copyPage, found, bind_eq_bind, bind_some]

theorem FlashPage.Holds.outside {changed : Nat → UInt8} {start size : Nat}
    (holds : page.Holds content)
    (same : ∀ place, place < start ∨ start + size ≤ place → changed place = content place)
    (apart : page.offset + page.len ≤ start ∨ start + size ≤ page.offset) : page.Holds changed where
  small := holds.small
  bounded := holds.bounded
  bytes index inside := by
    rw [holds.bytes index inside, same (page.offset + index) (by omega)]

theorem dropFlashCache_coherent {changed : Nat → UInt8} {start size : Nat}
    (coherent : Coherent content pages) (bounded : start + size < 2 ^ 32)
    (same : ∀ place, place < start ∨ start + size ≤ place → changed place = content place) :
    Coherent changed (dropFlashCache pages start ((start + size) % 2 ^ 32)) where
  listed := by
    obtain ⟨page, listed⟩ := exists_mem_of_ne_nil pages coherent.listed
    simp only [dropFlashCache, ne_eq, append_eq_nil_iff, map_eq_nil_iff,
      filter_eq_nil_iff, not_and, not_forall]
    intro none
    exact ⟨page, listed, by simpa using none page listed⟩
  holds page listed := by
    unfold dropFlashCache at listed
    rcases List.mem_append.mp listed with stays | reset
    · obtain ⟨inside, apart⟩ := List.mem_filter.mp stays
      have holds := coherent.holds page inside
      rw [Bool.or_eq_true, decide_eq_true_eq, decide_eq_true_eq, Nat.mod_eq_of_lt bounded,
        Nat.mod_eq_of_lt holds.bounded] at apart
      exact holds.outside same (by omega)
    · obtain ⟨dropped, -, rfl⟩ := List.mem_map.mp reset
      exact holds_reset dropped.buf

/-! ## Calls -/

theorem read_sound {arrivals : Nat → List FlashMsg} (coherent : Coherent content cache.pages)
    (small : len ≤ pageSize) (bounded : offset + len < 2 ^ 32)
    (sound : ∀ wait, ∀ msg ∈ arrivals wait, msg.Sound content)
    (brought : (∃ page ∈ cache.pages, page.covers offset len = true) ∨
      Brought arrivals offset len 0 10) :
    ∃ after, cache.read offset len arrivals =
        some (some ((List.range len).map fun index => content (offset + index)), after) ∧
      Coherent content after.pages := by
  unfold FlashCache.read
  rw [if_neg (by omega)]
  exact copyPage_sound coherent bounded sound brought

variable {changed : Nat → UInt8}

theorem drop_wait_sound {size : Nat}
    (coherent : Coherent content cache.pages) (bounded : offset + size < 2 ^ 32)
    (same : ∀ place, place < offset ∨ offset + size ≤ place → changed place = content place)
    (sound : ∀ msg ∈ arrivals, msg.Sound changed) (arrive : arrivals ≠ []) : ∃ after, { cache with
        pages := dropFlashCache cache.pages offset ((offset + size) % 2 ^ 32) }.wait arrivals =
          some after ∧ Coherent changed after.pages := by
  have dropped : Coherent changed { cache with
      pages := dropFlashCache cache.pages offset ((offset + size) % 2 ^ 32) }.pages :=
    dropFlashCache_coherent coherent bounded same
  obtain ⟨after, waited, kept, -⟩ := wait_sound dropped sound arrive
  exact ⟨after, waited, kept⟩

theorem write_sound (coherent : Coherent content cache.pages) (bounded : offset + len < 2 ^ 32)
    (same : ∀ place, place < offset ∨ offset + len ≤ place → changed place = content place)
    (sound : ∀ msg ∈ arrivals, msg.Sound changed) (arrive : arrivals ≠ []) :
    ∃ after, cache.write offset len true arrivals = some after ∧ Coherent changed after.pages := by
  exact drop_wait_sound coherent bounded same sound arrive

theorem erase_sound (coherent : Coherent content cache.pages)
    (valid : len ≤ 3) (bounded : offset + eraseSize len < 2 ^ 32)
    (same : ∀ place, place < offset ∨ offset + eraseSize len ≤ place →
      changed place = content place)
    (sound : ∀ msg ∈ arrivals, msg.Sound changed) (arrive : arrivals ≠ []) :
    ∃ after, cache.erase offset len arrivals = some after ∧ Coherent changed after.pages := by
  unfold FlashCache.erase
  rw [if_neg (by omega)]
  exact drop_wait_sound coherent bounded same sound arrive

end OpenBic.Mctp.Flash
