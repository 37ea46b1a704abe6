import OpenBic.Library.Machine
import OpenBic.Mctp.Flash

/-!
# What the flash cache returns

The calls of `mctp_flash.c` step by step: a lookup, a wait, the dropping of a range. A message may
arrive at any time between the steps. The notes say which responses were accepted and which ranges
were written or erased, so that a returned byte can be compared with what was delivered for its
address.
-/

namespace OpenBic.Mctp.Flash

open List Option

open Library.Checked
open Library.Machine

/-- An accepted response, or a range that was written or erased. -/
inductive Note where
  | response (msg : FlashMsg)
  | change (start size : Nat)

def FlashMsg.byteFor (msg : FlashMsg) (addr : Nat) : Option UInt8 :=
  if msg.offset ≤ addr then msg.data[addr - msg.offset]? else none

/-- A response delivered the byte for the address, and the address was not changed since. The latest
note comes first. -/
def delivered : List Note → Nat → UInt8 → Bool
  | [], _, _ => false
  | .response msg :: older, addr, byte => msg.byteFor addr = some byte || delivered older addr byte
  | .change start size :: older, addr, byte =>
    !(start ≤ addr && addr < start + size) && delivered older addr byte

/-- A response fits a page. -/
def FlashMsg.Accepted (msg : FlashMsg) : Prop :=
  msg.data.length ≤ pageSize ∧ msg.cmd = flashReadResp

instance (msg : FlashMsg) : Decidable msg.Accepted := inferInstanceAs (Decidable (_ ∧ _))

/-- Where the caller is. -/
inductive Call where
  | idle
  /-- In `mctp_flash_read`, in front of the lookup, with so many retries left. -/
  | looking (offset len retry : Nat)
  /-- In `mctp_flash_read`, in front of `k_msgq_get`. -/
  | waiting (offset len retry : Nat)
  /-- In `mctp_flash_write` or `mctp_flash_erase`, in front of `drop_flash_cache`. -/
  | dropping (offset size : Nat)
  /-- In `mctp_flash_write` or `mctp_flash_erase`, in front of `k_msgq_get`. -/
  | completing

/-- The cache, the caller, and what happened. -/
structure FlashRun where
  cache : FlashCache
  call : Call
  notes : List Note
  returned : Option (Nat × List UInt8)

/-- What can happen. -/
inductive FlashEvent where
  | msg (msg : FlashMsg)
  /-- `mctp_flash_read` is called. -/
  | read (offset len : Nat)
  /-- `mctp_flash_write` is called, with whether there is memory for the request. -/
  | write (offset len : Nat) (malloc : Bool)
  /-- `mctp_flash_erase` is called. -/
  | erase (offset len : Nat)
  | turn

namespace FlashRun

def init : FlashRun := ⟨FlashCache.init, .idle, [], none⟩

def arrive (state : FlashRun) (msg : FlashMsg) : Option FlashRun := do
  let cache ← state.cache.msgHandler msg
  let notes := if msg.Accepted then .response msg :: state.notes else state.notes
  some { state with cache, notes, returned := none }

def enter (state : FlashRun) (call : Call) : Option FlashRun :=
  match state.call with
  | .idle => some { state with call, returned := none }
  | _ => none

/-- `k_msgq_get`. -/
def get (state : FlashRun) (call : Call) : Option FlashRun :=
  if state.cache.msgq then
    some { state with cache := { state.cache with msgq := false }, call, returned := none }
  else none

def turn (state : FlashRun) : Option FlashRun :=
  match state.call with
  | .idle => none
  | .looking offset len retry => do
    match ← lookUp state.cache.pages offset len with
    | some (bytes, pages) =>
      let cache := { state.cache with pages }
      some { state with cache, call := .idle, returned := some (offset, bytes) }
    | none => some { state with call := .waiting offset len retry, returned := none }
  | .waiting _ _ 0 => state.get .idle
  | .waiting offset len (retry + 1) => state.get (.looking offset len retry)
  | .dropping offset size =>
    let pages := dropFlashCache state.cache.pages offset ((offset + size) % 2 ^ 32)
    let notes := .change offset size :: state.notes
    some ⟨{ state.cache with pages }, .completing, notes, none⟩
  | .completing => state.get .idle

def step (state : FlashRun) : FlashEvent → Option FlashRun
  | .msg msg => state.arrive msg
  | .read offset len => state.enter (if pageSize < len then .idle else .looking offset len 10)
  | .write offset len malloc => state.enter (if malloc then .dropping offset len else .idle)
  | .erase offset len =>
    state.enter (if 3 < len then .idle else .dropping offset (eraseSize len))
  | .turn => state.turn

/-- A page's length is that of its buffer at most, and no more than a response carried. -/
def Marked (notes : List Note) (page : FlashPage) : Prop :=
  page.len ≤ pageSize ∧ (page.len = 0 ∨
    ∃ msg, .response msg ∈ notes ∧ page.offset = msg.offset ∧ page.len ≤ msg.data.length)

/-- The bytes that are returned were delivered, the pages hold what was carried, and a lookup stays
inside its page. -/
structure Answers (state : FlashRun) : Prop where
  returned : ∀ {offset bytes}, state.returned = some (offset, bytes) →
    ∀ {index byte}, bytes[index]? = some byte → delivered state.notes (offset + index) byte = true
  marked : ∀ page ∈ state.cache.pages, Marked state.notes page
  inside : ∀ {offset len retry}, state.call = .looking offset len retry →
    lookUp state.cache.pages offset len ≠ none

/-- A response carries the bytes it says, and no range reaches the end of the addresses. -/
def Sized (_ : FlashRun) : FlashEvent → Prop
  | .msg msg => msg.Accepted → msg.len ≤ msg.data.length ∧ msg.offset + msg.len < 2 ^ 32
  | .read offset len => len ≤ pageSize → offset + len < 2 ^ 32
  | .write offset len malloc => malloc = true → offset + len < 2 ^ 32
  | .erase offset len => len ≤ 3 → offset + eraseSize len < 2 ^ 32
  | .turn => True

instance (state : FlashRun) : (event : FlashEvent) → Decidable (Sized state event)
  | .msg _ => inferInstanceAs (Decidable (_ → _))
  | .read _ _ => inferInstanceAs (Decidable (_ → _))
  | .write _ _ _ => inferInstanceAs (Decidable (_ → _))
  | .erase _ _ => inferInstanceAs (Decidable (_ → _))
  | .turn => .isTrue trivial

/-- A page whose bytes were delivered. -/
structure Truthful (notes : List Note) (page : FlashPage) : Prop where
  marked : Marked notes page
  bounded : page.offset + page.len < 2 ^ 32
  bytes : ∀ index < page.len,
    delivered notes (page.offset + index) (page.buf.bytes.getD index 0) = true

/-- The range of a call does not wrap. -/
def Bounded : Call → Prop
  | .looking offset len _ => offset + len < 2 ^ 32
  | .waiting offset len _ => offset + len < 2 ^ 32
  | .dropping offset size => offset + size < 2 ^ 32
  | _ => True

/-- The pages are truthful, and so was the last answer. -/
structure Keeps (state : FlashRun) : Prop where
  listed : state.cache.pages ≠ []
  pages : ∀ page ∈ state.cache.pages, Truthful state.notes page
  call : Bounded state.call
  returned : ∀ {offset bytes}, state.returned = some (offset, bytes) →
    ∀ {index byte}, bytes[index]? = some byte → delivered state.notes (offset + index) byte = true

variable {notes : List Note} {page : FlashPage} {state next : FlashRun}

theorem truthful_reset (notes : List Note) (buf : Buffer pageSize) :
    Truthful notes ⟨0, 0, buf⟩ where
  marked := ⟨Nat.zero_le _, .inl rfl⟩
  bounded := Nat.two_pow_pos 32
  bytes index inside := absurd inside (Nat.not_lt_zero index)

theorem Truthful.response (truthful : Truthful notes page) (msg : FlashMsg) :
    Truthful (.response msg :: notes) page where
  marked := by
    refine ⟨truthful.marked.1, ?_⟩
    rcases truthful.marked.2 with none | ⟨source, noted, rest⟩
    · exact .inl none
    · exact .inr ⟨source, mem_cons_of_mem _ noted, rest⟩
  bounded := truthful.bounded
  bytes index inside := by
    rw [delivered, truthful.bytes index inside, Bool.or_true]

theorem Truthful.change {start size : Nat} (truthful : Truthful notes page)
    (apart : page.offset + page.len ≤ start ∨ start + size ≤ page.offset) :
    Truthful (.change start size :: notes) page where
  marked := by
    refine ⟨truthful.marked.1, ?_⟩
    rcases truthful.marked.2 with none | ⟨source, noted, rest⟩
    · exact .inl none
    · exact .inr ⟨source, mem_cons_of_mem _ noted, rest⟩
  bounded := truthful.bounded
  bytes index inside := by
    rw [delivered, truthful.bytes index inside, Bool.and_true, Bool.not_eq_true',
      Bool.and_eq_false_iff, decide_eq_false_iff_not, decide_eq_false_iff_not]
    omega

theorem truthful_filled {msg : FlashMsg} {old buf : Buffer pageSize}
    (sized : msg.len ≤ msg.data.length) (bounded : msg.offset + msg.len < 2 ^ 32)
    (wrote : old.write 0 msg.data = some buf) :
    Truthful (.response msg :: notes) ⟨msg.offset, msg.len, buf⟩ := by
  obtain ⟨fits, spliced⟩ := Buffer.write_some wrote
  refine ⟨⟨?_, .inr ⟨msg, mem_cons_self, rfl, sized⟩⟩, bounded, ?_⟩
  · dsimp only
    omega
  · intro index inside
    dsimp only at inside ⊢
    have carried : index < msg.data.length := by omega
    have byte : buf.bytes.getD index 0 = msg.data[index] := by
      rw [spliced, splice_zero, getD_append _ _ _ _ carried,
        getD_eq_getElem _ _ carried]
    have found : msg.byteFor (msg.offset + index) = some msg.data[index] := by
      rw [FlashMsg.byteFor, if_pos (Nat.le_add_right _ _), Nat.add_sub_cancel_left,
        getElem?_eq_getElem carried]
    rw [delivered, byte, found, decide_eq_true rfl, Bool.true_or]

theorem mem_dropFlashCache {pages : List FlashPage} {start finish : Nat}
    (listed : page ∈ dropFlashCache pages start finish) :
    (page ∈ pages ∧ ((page.offset + page.len) % 2 ^ 32 ≤ start ∨ finish < page.offset)) ∨
      ∃ buf, page = ⟨0, 0, buf⟩ := by
  rcases List.mem_append.mp listed with stays | reset
  · obtain ⟨inside, apart⟩ := List.mem_filter.mp stays
    rw [Bool.or_eq_true, decide_eq_true_eq, decide_eq_true_eq] at apart
    exact .inl ⟨inside, apart⟩
  · obtain ⟨dropped, -, rfl⟩ := List.mem_map.mp reset
    exact .inr ⟨dropped.buf, rfl⟩

theorem dropFlashCache_ne_nil {pages : List FlashPage} {start finish : Nat}
    (listed : pages ≠ []) : dropFlashCache pages start finish ≠ [] := by
  obtain ⟨page, member⟩ := exists_mem_of_ne_nil pages listed
  simp only [dropFlashCache, ne_eq, append_eq_nil_iff, map_eq_nil_iff,
    filter_eq_nil_iff, not_and, not_forall]
  intro none
  exact ⟨page, member, by simpa using none page member⟩

theorem lookUp_cases {pages : List FlashPage} {offset len : Nat}
    (truthful : ∀ page ∈ pages, Truthful notes page) (bounded : offset + len < 2 ^ 32) :
    lookUp pages offset len = some none ∨
      ∃ page ∈ pages, page.offset ≤ offset ∧ offset + len ≤ page.offset + page.len ∧
        lookUp pages offset len = some (some ((page.buf.bytes.drop (offset - page.offset)).take len,
          page :: pages.eraseP (·.covers offset len))) := by
  unfold lookUp
  cases found : pages.find? (·.covers offset len) with
  | none => exact .inl rfl
  | some page =>
    have listed := mem_of_find?_eq_some found
    have held := truthful page listed
    have covers := find?_some found
    have small := held.marked.1
    rw [FlashPage.covers, Bool.and_eq_true, decide_eq_true_eq, decide_eq_true_eq,
      Nat.mod_eq_of_lt bounded, Nat.mod_eq_of_lt held.bounded] at covers
    refine .inr ⟨page, listed, covers.1, covers.2, ?_⟩
    have copied : page.buf.read (offset - page.offset) len =
        some ((page.buf.bytes.drop (offset - page.offset)).take len) :=
      Buffer.read_eq (by omega)
    simp only [copied, bind_eq_bind, bind_some]

theorem Truthful.copied {offset len index : Nat} {byte : UInt8} (truthful : Truthful notes page)
    (above : page.offset ≤ offset) (below : offset + len ≤ page.offset + page.len)
    (copied : ((page.buf.bytes.drop (offset - page.offset)).take len)[index]? = some byte) :
    delivered notes (offset + index) byte = true := by
  rw [getElem?_take] at copied
  split at copied
  · rw [getElem?_drop] at copied
    have held := truthful.bytes (offset - page.offset + index) (by omega)
    rw [getD_eq_getElem?_getD, copied] at held
    rw [show page.offset + (offset - page.offset + index) = offset + index by omega] at held
    exact held
  · cases copied

theorem keeps_arrive {msg : FlashMsg} (keeps : Keeps state)
    (sized : msg.Accepted → msg.len ≤ msg.data.length ∧ msg.offset + msg.len < 2 ^ 32)
    (moved : state.arrive msg = some next) : Keeps next := by
  unfold arrive FlashCache.msgHandler at moved
  by_cases large : pageSize < msg.data.length
  · have refused : ¬ msg.Accepted := fun accepted => Nat.not_lt.mpr accepted.1 large
    simp only [if_pos large, if_neg refused, bind_eq_bind, bind_some,
      Option.some.injEq] at moved
    subst moved
    exact ⟨keeps.listed, keeps.pages, keeps.call, nofun⟩
  · by_cases answers : msg.cmd = flashReadResp
    · have accepted : msg.Accepted := ⟨Nat.le_of_not_lt large, answers⟩
      obtain ⟨carried, bounded⟩ := sized accepted
      have last := getLast?_eq_some_getLast keeps.listed
      cases wrote : (state.cache.pages.getLast keeps.listed).buf.write 0 msg.data with
      | none =>
        simp only [if_neg large, if_pos answers, last, wrote, bind_eq_bind,
          bind_none] at moved
        cases moved
      | some buf =>
        simp only [if_neg large, if_pos answers, last, wrote, if_pos accepted,
          bind_eq_bind, bind_some, Option.some.injEq] at moved
        subst moved
        refine ⟨cons_ne_nil _ _, ?_, keeps.call, nofun⟩
        intro page listed
        rcases List.mem_cons.mp listed with rfl | rest
        · exact truthful_filled carried bounded wrote
        · exact (keeps.pages page (dropLast_subset _ rest)).response msg
    · have refused : ¬ msg.Accepted := fun accepted => answers accepted.2
      simp only [if_neg large, if_neg answers, if_neg refused, bind_eq_bind,
        bind_some, Option.some.injEq] at moved
      subst moved
      exact ⟨keeps.listed, keeps.pages, keeps.call, nofun⟩

theorem keeps_enter {call : Call} (keeps : Keeps state) (bounded : Bounded call)
    (moved : state.enter call = some next) : Keeps next := by
  unfold enter at moved
  split at moved
  · cases moved
    exact ⟨keeps.listed, keeps.pages, bounded, nofun⟩
  · cases moved

theorem keeps_get {call : Call} (keeps : Keeps state) (bounded : Bounded call)
    (moved : state.get call = some next) : Keeps next := by
  unfold get at moved
  split at moved
  · cases moved
    exact ⟨keeps.listed, keeps.pages, bounded, nofun⟩
  · cases moved

/-- The caller goes on and keeps the pages truthful. -/
theorem keeps_turn (keeps : Keeps state) (moved : state.turn = some next) : Keeps next := by
  have limit := keeps.call
  unfold turn at moved
  cases call : state.call with
  | idle =>
    rw [call] at moved
    cases moved
  | looking offset len retry =>
    rw [call] at moved limit
    rcases lookUp_cases keeps.pages limit with missed | ⟨page, listed, above, below, found⟩
    · simp only [missed, bind_eq_bind, bind_some, Option.some.injEq] at moved
      subst moved
      exact ⟨keeps.listed, keeps.pages, limit, nofun⟩
    · simp only [found, bind_eq_bind, bind_some, Option.some.injEq] at moved
      subst moved
      refine ⟨cons_ne_nil _ _, ?_, trivial, ?_⟩
      · intro other member
        rcases List.mem_cons.mp member with rfl | rest
        · exact keeps.pages other listed
        · exact keeps.pages other (mem_of_mem_eraseP rest)
      · intro offset bytes same index byte copied
        obtain ⟨rfl, rfl⟩ := same
        exact (keeps.pages page listed).copied above below copied
  | waiting offset len retry =>
    rw [call] at moved limit
    cases retry with
    | zero => exact keeps_get keeps (show Bounded .idle from trivial) moved
    | succ retry =>
      exact keeps_get keeps (show Bounded (.looking offset len retry) from limit) moved
  | dropping offset size =>
    rw [call] at moved limit
    cases moved
    refine ⟨dropFlashCache_ne_nil keeps.listed, ?_, trivial, nofun⟩
    intro page listed
    rcases mem_dropFlashCache listed with ⟨stays, apart⟩ | ⟨buf, rfl⟩
    · have held := keeps.pages page stays
      rw [Nat.mod_eq_of_lt limit, Nat.mod_eq_of_lt held.bounded] at apart
      exact held.change (by omega)
    · exact truthful_reset _ buf
  | completing =>
    rw [call] at moved
    exact keeps_get keeps (show Bounded .idle from trivial) moved

/-- An event of the right size keeps the cache coherent. -/
theorem keeps_step {event : FlashEvent} (keeps : Keeps state) (sized : Sized state event)
    (moved : step state event = some next) : Keeps next := by
  cases event with
  | msg msg => exact keeps_arrive keeps sized moved
  | read offset len =>
    refine keeps_enter keeps ?_ moved
    split
    · trivial
    · rename_i short
      exact sized (Nat.le_of_not_lt short)
  | write offset len malloc =>
    refine keeps_enter keeps ?_ moved
    split
    · rename_i room
      exact sized room
    · trivial
  | erase offset len =>
    refine keeps_enter keeps ?_ moved
    split
    · trivial
    · rename_i valid
      exact sized (Nat.le_of_not_lt valid)
  | turn => exact keeps_turn keeps moved

theorem keeps_init : Keeps init where
  listed := by decide
  pages page listed := by
    obtain rfl := eq_of_mem_replicate listed
    exact truthful_reset _ _
  call := trivial
  returned := nofun

theorem Keeps.answers (keeps : Keeps state) : Answers state where
  returned := keeps.returned
  marked page listed := (keeps.pages page listed).marked
  inside {offset len retry} call := by
    have limit := keeps.call
    rw [call] at limit
    rcases lookUp_cases keeps.pages limit with missed | ⟨page, _, _, _, found⟩
    · rw [missed]
      exact nofun
    · rw [found]
      exact nofun

/-- In a run in which every accepted response carries the bytes it says, and no range reaches the
end of the addresses, reads return what was delivered. -/
theorem run_answers {events : List FlashEvent}
    (meets : Meets step Sized init events) (ran : run step init events = some state) :
    Answers state := by
  have kept : ∀ {state : FlashRun} {event next}, Keeps state → Sized state event →
      step state event = some next → Keeps next := keeps_step
  exact (invariant kept keeps_init meets ran).answers

/-- A response of eight bytes that says so answers a read of four of them. -/
theorem run_answers_eight :
    ∃ state ∈ run step init [.read 2 4, .turn, .msg ⟨0x80, 0, 8, [0, 1, 2, 3, 4, 5, 6, 7]⟩, .turn,
      .turn], state.returned = some (2, [2, 3, 4, 5]) ∧ Answers state := by
  have ran : ∃ state ∈ run step init [.read 2 4, .turn,
      .msg ⟨0x80, 0, 8, [0, 1, 2, 3, 4, 5, 6, 7]⟩, .turn, .turn],
      state.returned = some (2, [2, 3, 4, 5]) := by
    decide +kernel
  obtain ⟨state, ran, returned⟩ := ran
  exact ⟨state, ran, returned, run_answers (by decide +kernel) ran⟩

/-- A response of one byte that says it has a page answers a read of two with a byte that was not
delivered. -/
theorem not_answers :
    ¬ ∀ {events : List FlashEvent} {state : FlashRun}, run step init events = some state →
      Answers state := by
  intro always
  have ran : ∃ state ∈ run step init [.read 0 2, .turn, .msg ⟨0x80, 0, 960, [0xAA]⟩, .turn, .turn],
      state.returned = some (0, [0xAA, 0x00]) ∧ delivered state.notes 1 0x00 = false := by
    decide +kernel
  obtain ⟨state, ran, returned, never⟩ := ran
  have byte : ([0xAA, 0x00] : List UInt8)[1]? = some 0x00 := rfl
  have claimed := (always ran).returned returned byte
  rw [never] at claimed
  cases claimed

end FlashRun

end OpenBic.Mctp.Flash
