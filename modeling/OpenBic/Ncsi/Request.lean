import OpenBic.Library.Holders
import OpenBic.Mctp.PendingKeys

/-!
# NC-SI requests

`ncsi.c` keys a request by an instance id of 256, which `register_instid` takes out of
`ncsi_inst_table` in two halves without a lock: its loop comes to a free id, and the id is then
marked. The response handler and the timeout monitor give the id back under the mutex, the error
path of `mctp_ncsi_send_msg` after it has unlinked its request. A `WRITE_BIT` of the table is at its
store; what the store of an older word undoes is a step of its own. The rest is the pending list of
`OpenBic.Mctp.Pending`.
-/

namespace OpenBic.Ncsi

open Function Library.Machine Library.Holders Mctp

/-- An instance id, `uint8_t`. -/
abbrev InstId := Fin 256

local instance instId_neZero : NeZero 256 := ⟨by decide⟩

local instance word_neZero : NeZero 8 := ⟨by decide⟩

/-- The key of an instance id: the MCTP instance and the id. -/
abbrev IdKey := Nat × InstId

/-- What is asked of whom. -/
structure Request where
  inst : Nat
  command : Nat
deriving DecidableEq, Inhabited

/-- What a response is compared by. -/
structure Key where
  inst : Nat
  instId : InstId
  command : Nat
deriving DecidableEq, Inhabited

def Key.id (key : Key) : IdKey := (key.inst, key.instId)

/-- `sizeof(ncsi_hdr)` is 17, `NCSI_MSG_MAX_RETRY` 3; `ncsi_read_resp_handler` returns at once when
`rlen` is zero. -/
def config : Pending.Config := { header := 17, minLen := 1, maxRetry := 3, silentEmpty := true }

/-- `wait_recv_resp_list` and the calls, and the instance ids. -/
structure State where
  pending : Pending.State Request Key
  /-- `ncsi_inst_table` of every MCTP instance. -/
  table : IdKey → Bool
  curInstNum : InstId
  curInstTable : Fin 8

def State.start : State :=
  { pending := .start
    table := fun _ => false
    curInstNum := 0
    curInstTable := 0 }

def word (num : InstId) : Fin 8 := ⟨num / 32, by omega⟩

/-- The id whose bit `register_instid` looks at and marks. -/
def bit (table : Fin 8) (num : InstId) : InstId := ⟨table * 32 + num % 32, by omega⟩

/-- The loop of `register_instid`: it leaves `cur_inst_num` and `cur_inst_table` behind. -/
def scan (table : InstId → Bool) : Nat → InstId → Fin 8 → (InstId × Fin 8) × Bool
  | 0, num, last => ((num, last), false)
  | tries + 1, num, _ =>
    if table (bit (word num) num) then scan table tries (num + 1) (word num)
    else ((num, word num), true)

/-- The first half of `register_instid`; it fails when no id is free. -/
def State.scan (s : State) (inst : Nat) : State × Bool :=
  let found := Ncsi.scan (fun id => s.table (inst, id)) 256 s.curInstNum s.curInstTable
  ({ s with curInstNum := found.1.1, curInstTable := found.1.2 }, found.2)

/-- The second half of `register_instid`: it marks the id and steps on. -/
def State.claim (s : State) (inst : Nat) : State :=
  { s with
    table := update s.table (inst, bit s.curInstTable s.curInstNum) true
    curInstNum := s.curInstNum + 1 }

/-- `unregister_instid`; it fails when the id is not registered. -/
def State.unregister (s : State) (id : IdKey) : State × Bool :=
  if s.table id then ({ s with table := update s.table id false }, true) else (s, false)

/-- What can happen next. -/
inductive Event where
  /-- `mctp_ncsi_read` is called, and gets its queue and arguments allocated or not. -/
  | read (inst command rbufLen : Nat) (mallocOk : Bool)
  /-- `mctp_ncsi_send_msg` is called with a request, not by `mctp_ncsi_read`. -/
  | send (inst command : Nat)
  | attempt (reader : Nat)
  /-- `register_instid` marks the id it came to. -/
  | claim (call : Nat)
  | append (call : Nat) (node : Option Nat)
  /-- `mctp_send_msg` returns. -/
  | sent (call : Nat) (ok : Bool)
  | remove (call : Nat) (during : Bool)
  | release (call : Nat)
  /-- `ncsi_resp_msg_process` looks for the request. -/
  | response (reply : Pending.Reply Key)
  | callback (call : Nat)
  /-- `ncsi_msg_timeout_check` comes to a request whose time has passed. -/
  | expire (call : Nat)
  /-- `k_msgq_get` returns to a reader. -/
  | get (reader : Nat)
  /-- Two calls of `register_instid` and `unregister_instid` overlap: the `WRITE_BIT` of one has
  loaded the word before the other stored it, and its store undoes what that did to an id. -/
  | undo (id : IdKey)

def State.call (s : State) (call : Nat) : Pending.Call Request Key := s.pending.calls call

/-- What an event is to the instance ids, and what it is then to the pending list. -/
def State.split (s : State) : Event → State × Pending.Event Request Key
  | .read inst command rbufLen mallocOk =>
    (s, .read ⟨inst, command⟩ rbufLen (rbufLen ≠ 0 && mallocOk))
  | .send inst command =>
    let scanned := s.scan inst
    (scanned.1, .send ⟨inst, command⟩ scanned.2)
  | .attempt reader =>
    let scanned := s.scan (s.pending.readers reader).request.inst
    (scanned.1, .attempt reader scanned.2)
  | .claim call =>
    let request := (s.call call).request
    (s.claim request.inst, .key call ⟨request.inst, s.curInstNum, request.command⟩)
  | .append call node => (s, .append call node)
  | .sent call ok => (s, .sent call ok)
  | .remove call during => (s, .remove call during)
  | .release call => ((s.unregister (s.call call).key.id).1, .release call)
  | .response reply =>
    -- the id is given back only for a request that is found
    match Pending.Event.gives config s.pending (.response reply true) with
    | none => (s, .response reply true)
    | some call =>
      let unregistered := s.unregister (s.call call).key.id
      (unregistered.1, .response reply unregistered.2)
  | .callback call => (s, .callback call)
  | .expire call =>
    let unregistered := s.unregister (s.call call).key.id
    (unregistered.1, .expire call unregistered.2)
  | .get reader => (s, .get reader)
  -- to the list it is as a message without a byte
  | .undo id =>
    ({ s with table := update s.table id !s.table id }, .response ⟨default, 0, true, 0⟩ true)

def step (s : State) (event : Event) : Option State :=
  (Pending.step config s.pending (s.split event).2).map fun pending =>
    { (s.split event).1 with pending }

/-- The condition on a step: the id marked is the one the loop came to, and still free, and calls of
`register_instid` and `unregister_instid` do not overlap so that one undoes the other; a failed
send finds its request listed and nobody else at work on the list; a response that is matched
suits the request. -/
def Guard (s : State) : Event → Prop
  | .claim call =>
    bit s.curInstTable s.curInstNum = s.curInstNum ∧
      s.table ((s.call call).request.inst, s.curInstNum) = false
  | .remove call during => (s.call call).place = .listed ∧ during = false
  | .response reply =>
    config.minLen ≤ reply.len → ∀ call ∈ s.pending.listed.find? (s.pending.answers reply.key),
      Pending.Suits config call (s.call call).reader reply
  | .undo _ => False
  | _ => True

instance Guard.decidable (s : State) : (event : Event) → Decidable (Guard s event)
  | .claim _ | .remove .. => inferInstanceAs (Decidable (_ ∧ _))
  | .response _ => inferInstanceAs (Decidable (_ → ∀ call ∈ _, _))
  | .read .. | .send .. | .attempt .. | .append .. | .sent .. | .release .. | .callback ..
  | .expire .. | .get .. => .isTrue trivial
  | .undo _ => .isFalse id

/-- The table marks the ids of the outstanding requests, one for each. -/
def State.Marked (s : State) : Prop :=
  Marks s.table (fun call => (s.call call).Outstanding) fun call => (s.call call).key.id

/-- What holds in every state. -/
structure Sound (s : State) : Prop where
  pending : Pending.Sound config s.pending
  marked : s.Marked

theorem sound_start : Sound State.start where
  pending := Pending.sound_start config
  marked := by
    refine ⟨fun id => ⟨fun marked => absurd marked Bool.false_ne_true, ?_⟩, ?_⟩
    · rintro ⟨call, held, _⟩
      simp [State.call, State.start, Pending.State.start, Pending.Call.Outstanding] at held
    · intro call _ held
      simp [State.call, State.start, Pending.State.start, Pending.Call.Outstanding] at held

section Step

variable {s t : State} {call : Nat} {calls : Nat → Pending.Call Request Key}

theorem State.Marked.keep (marked : s.Marked)
    (passes : Pending.Passes s.pending.calls calls none none) :
    Marks s.table (fun call => (calls call).Outstanding) fun call => (calls call).key.id := by
  apply marked.congr
  · intro other
    rw [passes.holds]
    simp [State.call]
  · intro other held
    rw [passes.keys other held]
    rfl

theorem State.Marked.give (marked : s.Marked)
    (passes : Pending.Passes s.pending.calls calls (some call) none) :
    Marks (update s.table (s.call call).key.id false)
      (fun call => (calls call).Outstanding) fun call => (calls call).key.id := by
  have same : ∀ other, (calls other).Outstanding ↔
      (s.call other).Outstanding ∧ other ≠ call := by
    intro other
    rw [passes.holds]
    simp [State.call, eq_comm]
  apply Marks.give marked (passes.had call rfl) same
  intro other held
  rw [passes.keys other ((same other).mp held).1]
  rfl

theorem State.Marked.take (marked : s.Marked) {id : IdKey}
    (passes : Pending.Passes s.pending.calls calls none (some call)) (free : s.table id = false)
    (own : (calls call).key.id = id) :
    Marks (update s.table id true)
      (fun call => (calls call).Outstanding) fun call => (calls call).key.id := by
  have same : ∀ other, (calls other).Outstanding ↔
      (s.call other).Outstanding ∨ other = call := by
    intro other
    rw [passes.holds]
    simp [State.call, eq_comm]
  apply Marks.take marked free same
  · intro other held
    rw [passes.keys other held]
    rfl
  · exact own

theorem State.Marked.unregister (marked : s.Marked) (held : (s.call call).Outstanding) :
    s.unregister (s.call call).key.id =
      ({ s with table := update s.table (s.call call).key.id false }, true) := by
  have registered : s.table (s.call call).key.id = true := marked.of_holds held
  rw [State.unregister, if_pos registered]

theorem gives_response {reply : Pending.Reply Key} {given : Bool}
    (found : Pending.Event.gives config s.pending (.response reply given) = some call) :
    config.minLen ≤ reply.len ∧
      s.pending.listed.find? (s.pending.answers reply.key) = some call := by
  simp only [Pending.Event.gives] at found
  split at found
  · cases found
  · rename_i looked
    exact ⟨Nat.le_of_not_lt fun short => looked (.inr short), found⟩

theorem Sound.outstanding (sound : Sound s) (member : call ∈ s.pending.listed) :
    (s.call call).Outstanding := .inl ((sound.pending.listed.mem call).mp member)

/-- A guarded step meets the condition of the pending list. -/
theorem Guard.pending {event : Event} (guarded : Guard s event) (sound : Sound s)
    (possible : Pending.step config s.pending (s.split event).2 ≠ none) :
    Pending.Guard config s.pending (s.split event).2 := by
  cases event with
  | remove call during => exact guarded
  | response reply =>
    simp only [State.split]
    split
    · rename_i missing
      intro long call found
      simp only [Pending.Event.gives] at missing
      rw [if_neg] at missing
      · rw [missing] at found
        cases found
      · rw [sound.pending.running]
        simpa using long
    · rename_i call found
      obtain ⟨long, member⟩ := gives_response found
      intro _ other same
      cases member.symm.trans same
      have held := sound.outstanding (List.mem_of_find?_eq_some member)
      rw [sound.marked.unregister held]
      exact ⟨rfl, guarded long call member⟩
  | expire call =>
    have member : call ∈ s.pending.listed := by
      by_contra unlisted
      exact possible (if_neg unlisted)
    simp only [State.split, sound.marked.unregister (sound.outstanding member)]
    exact rfl
  | undo id => exact guarded.elim
  | read | send | attempt | claim | append | sent | release | callback | get => trivial

/-- Every guarded step keeps everything, and is progress for the reader it is a step of. -/
theorem sound_step {event : Event} (sound : Sound s) (guarded : Guard s event)
    (moved : step s event = some t) :
    Sound t ∧ Pending.Progress config s.pending t.pending ((s.split event).2.owner s.pending) := by
  obtain ⟨pending, stepped, rfl⟩ := Option.map_eq_some_iff.mp moved
  have possible : Pending.step config s.pending (s.split event).2 ≠ none := by
    rw [stepped]
    exact Option.some_ne_none pending
  have allowed := guarded.pending sound possible
  obtain ⟨kept, progress⟩ := Pending.sound_step sound.pending allowed stepped
  have passes := Pending.passes_step sound.pending allowed stepped
  refine ⟨⟨kept, ?_⟩, progress⟩
  cases event with
  | read | send | attempt | append | sent | remove | callback | get =>
    exact sound.marked.keep passes
  | claim call =>
    obtain ⟨exact, free⟩ := guarded
    have key : (pending.calls call).key =
        ⟨(s.call call).request.inst, s.curInstNum, (s.call call).request.command⟩ := by
      obtain ⟨_, stepped⟩ := Option.ite_none_right_eq_some.mp stepped
      cases stepped
      simp [Pending.State.advance]
    have taken := sound.marked.take passes free (by rw [key]; rfl)
    rw [← exact] at taken
    exact taken
  | release call =>
    have held := passes.had call rfl
    show Marks (s.unregister (s.call call).key.id).1.table _ _
    rw [sound.marked.unregister held]
    exact sound.marked.give passes
  | response reply =>
    revert passes
    simp only [State.split]
    split
    · rename_i missing
      have none : Pending.Event.gives config s.pending (.response reply true) = none := missing
      rw [none]
      exact sound.marked.keep
    · rename_i call found
      obtain ⟨_, member⟩ := gives_response found
      rw [sound.marked.unregister (sound.outstanding (List.mem_of_find?_eq_some member))]
      intro passes
      rw [show Pending.Event.gives config s.pending (.response reply true) = some call from found]
        at passes
      exact sound.marked.give passes
  | expire call =>
    have held := passes.had call rfl
    show Marks (s.unregister (s.call call).key.id).1.table _ _
    rw [sound.marked.unregister held]
    exact sound.marked.give passes
  | undo id => exact guarded.elim

end Step

/-- A read has returned. -/
def Returned (reader : Nat) (s : State) : Prop := Pending.Returned reader s.pending

/-- It is a reader's turn. -/
def Turn (reader : Nat) (s : State) (event : Event) : Prop :=
  (s.split event).2.owner s.pending = some reader

theorem turn_of_owner {s : State} {reader : Nat} {event : Pending.Event Request Key}
    (owner : event.owner s.pending = some reader)
    (possible : Pending.step config s.pending event ≠ none) :
    ∃ turn, Turn reader s turn ∧ step s turn ≠ none := by
  have lift : ∀ turn, Turn reader s turn → Pending.step config s.pending (s.split turn).2 ≠ none →
      ∃ turn, Turn reader s turn ∧ step s turn ≠ none := by
    intro turn mine able
    exact ⟨turn, mine, by simpa [step] using able⟩
  cases event with
  | read | send | response => cases owner
  | attempt asked found =>
    apply lift (.attempt asked) owner
    simpa [State.split, Pending.step] using possible
  | key call value =>
    apply lift (.claim call) owner
    simpa [State.split, Pending.step] using possible
  | append call node => exact lift (.append call node) owner possible
  | sent call ok => exact lift (.sent call ok) owner possible
  | remove call during => exact lift (.remove call during) owner possible
  | release call => exact lift (.release call) owner possible
  | callback call => exact lift (.callback call) owner possible
  | expire call given =>
    apply lift (.expire call) owner
    simpa [State.split, Pending.step] using possible
  | get asked => exact lift (.get asked) owner possible

/-- In a fair run from a state in order, a reader that has begun returns. -/
theorem Sound.returns {s : State} (sound : Sound s) {states : Nat → State} {events : Nat → Event}
    (execution : Execution step Guard states events) (initial : states 0 = s) {reader : Nat}
    (fair : Fair step (Turn reader) states events)
    (begun : (s.pending.readers reader).pc ≠ .absent) :
    ∃ time, Returned reader (states time) := by
  subst initial
  have kept : ∀ {s event t}, Sound s → Guard s event → step s event = some t → Sound t :=
    fun sound guarded moved => (sound_step sound guarded moved).1
  have always : ∀ time, Sound (states time) := fun time => execution.invariant kept sound time
  have progress : ∀ time, Pending.Progress config (states time).pending
      (states (time + 1)).pending (((states time).split (events time)).2.owner
        (states time).pending) := fun time =>
    (sound_step (always time) (execution time).1 (execution time).2).2
  have present : ∀ time, ((states time).pending.readers reader).pc ≠ .absent := by
    intro time
    induction time with
    | zero => exact begun
    | succ time ih => exact (progress time reader ih).1
  have able : ∀ time, 0 ≤ time → ¬ Returned reader (states time) →
      ∃ event, Turn reader (states time) event ∧ step (states time) event ≠ none := by
    intro time _ running
    obtain ⟨event, owner, possible⟩ := (always time).pending.able (present time) running
    exact turn_of_owner owner possible
  let weight : State → Nat := fun s => s.pending.left config reader
  have settled : ∀ time, 0 ≤ time → weight (states (time + 1)) ≤ weight (states time) :=
    fun time _ => (progress time reader (present time)).2.1
  have lowered : ∀ time, 0 ≤ time → Turn reader (states time) (events time) →
      weight (states (time + 1)) < weight (states time) :=
    fun time _ turn => (progress time reader (present time)).2.2 turn
  obtain ⟨time, _, returned⟩ := fair.eventually able settled lowered
  exact ⟨time, returned⟩

/-- The ids are those of the outstanding requests, and every request settles. -/
structure Settled (s : State) : Prop where
  marked : s.Marked
  settles : Pending.Settles config s.pending

/-- In every guarded run the ids are in order and requests settle, and from then on every fair run
returns from every read. -/
theorem mctpNcsiSendMsg_settles {events : List Event} {s : State}
    (guarded : Meets step Guard State.start events)
    (ran : run step State.start events = some s) :
    Settled s ∧ ∀ (states : Nat → State) (later : Nat → Event),
      Execution step Guard states later → states 0 = s → ∀ reader,
        Fair step (Turn reader) states later → (s.pending.readers reader).pc ≠ .absent →
          ∃ time, Returned reader (states time) := by
  have kept : ∀ {s event t}, Sound s → Guard s event → step s event = some t → Sound t :=
    fun sound guarded moved => (sound_step sound guarded moved).1
  have sound := invariant kept sound_start guarded ran
  refine ⟨⟨sound.marked, sound.pending.settles⟩, ?_⟩
  intro states later execution initial reader fair begun
  exact sound.returns execution initial fair begun

/-- A read whose first attempt times out, whose second cannot be sent, and whose third is answered
with forty bytes before the transport returns; meanwhile another request is answered. -/
def threeAttempts : List Event :=
  [.read 0 0x50 64 true, .attempt 0, .claim 0, .append 0 (some 64), .sent 0 true, .send 0 0x38,
    .claim 1, .append 1 (some 96), .sent 1 true, .expire 0, .get 0, .attempt 0, .claim 2,
    .append 2 (some 64), .sent 2 false, .remove 2 false, .response ⟨⟨0, 1, 0x38⟩, 20, true, 1⟩,
    .release 2, .attempt 0, .claim 3, .append 3 (some 64),
    .response ⟨⟨0, 3, 0x50⟩, 40, true, 3⟩, .callback 1, .callback 3, .sent 3 true, .get 0]

/-- After it the read has returned the 23 bytes behind the header, and all is settled. -/
theorem mctpNcsiSendMsg_settles_threeAttempts :
    ∃ s, run step State.start threeAttempts = some s ∧
      (s.pending.readers 0).pc = .returned 23 ∧ Settled s := by
  have guarded : Meets step Guard State.start threeAttempts := by decide +kernel
  have reached : ∃ s ∈ run step State.start threeAttempts,
      (s.pending.readers 0).pc = .returned 23 := by decide +kernel
  obtain ⟨s, ran, returned⟩ := reached
  exact ⟨s, ran, returned, (mctpNcsiSendMsg_settles guarded ran).1⟩

/-- A read that is answered with five bytes, fewer than the header has. -/
def fiveBytes : List Event :=
  [.read 0 0x50 64 true, .attempt 0, .claim 0, .append 0 (some 64), .sent 0 true,
    .response ⟨⟨0, 0, 0x50⟩, 5, true, 0⟩, .callback 0, .get 0]

/-- Its handler is given 65524 bytes, and the read returns a full buffer. -/
theorem fiveBytes_wraps :
    ∃ s, run step State.start fiveBytes = some s ∧ (s.pending.readers 0).pc = .returned 64 ∧
      ¬ Settled s := by
  have reached : ∃ s ∈ run step State.start fiveBytes,
      (s.pending.readers 0).pc = .returned 64 ∧ (5, 65524) ∈ s.pending.lengths := by
    decide +kernel
  obtain ⟨s, ran, returned, handed⟩ := reached
  refine ⟨s, ran, returned, fun settled => ?_⟩
  have exact := settled.settles.lengths _ handed
  simp [config] at exact

end OpenBic.Ncsi
