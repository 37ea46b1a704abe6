import OpenBic.Mctp.Pending
import Mathlib.Data.List.Nodup

/-!
# Runs of pending requests

What holds of the list, the calls and the readers in every state of a run in which each failed
send finds its request still listed and nobody else at work on the list, and each response matched
to a request has a length that fits and, for a reader's request, answers that request. Every step
but the start of a read changes one call and at most the reader that makes it: `Advances` says what
it must do to that reader, and the rest is one frame argument.
-/

namespace OpenBic.Mctp.Pending

open List Function Library.Machine

variable {ρ κ : Type}

/-- The length that is left of a response without its header is a `uint16_t`. -/
def Config.Fits (config : Config) (len : Nat) : Prop :=
  config.header ≤ len ∧ len < config.header + 2 ^ 16

theorem Config.payloadLen_add {config : Config} {len : Nat} (fits : config.Fits len) :
    config.payloadLen len + config.header = len := by
  obtain ⟨least, most⟩ := fits
  have exact : len + 2 ^ 16 - config.header = len - config.header + 2 ^ 16 := by omega
  rw [Config.payloadLen, exact, Nat.add_mod_right, Nat.mod_eq_of_lt (by omega)]
  omega

/-- What a response matched to a call must be: long enough and, for the call of a reader, the
answer to that call and not empty where the handler drops an empty one. -/
def Suits (config : Config) (call : Nat) (reader : Option Nat) (reply : Reply κ) : Prop :=
  config.Fits reply.len ∧
    (reader ≠ none → reply.answer = call ∧
      (config.silentEmpty = true → config.header < reply.len))

instance Suits.decidable (config : Config) (call : Nat) (reader : Option Nat) (reply : Reply κ) :
    Decidable (Suits config call reader reply) :=
  inferInstanceAs (Decidable ((_ ∧ _) ∧ (_ → _ ∧ (_ → _))))

/-- The condition on an event. -/
def Guard [DecidableEq κ] (config : Config) (s : State ρ κ) : Event ρ κ → Prop
  | .remove call during => (s.calls call).place = .listed ∧ during = false
  | .response reply given =>
    config.minLen ≤ reply.len → ∀ call ∈ s.listed.find? (s.answers reply.key),
      given = true ∧ Suits config call (s.calls call).reader reply
  | .expire _ given => given = true
  | _ => True

/-- A request was completed and freed as often as its call and its place say. -/
def Call.Counted (call : Call ρ κ) : Prop :=
  match call.pc with
  | .absent | .begun | .keyed => call.place = .unlisted ∧ call.completions = 0 ∧ call.frees = 0
  | .appended | .sendFailed | .ended true =>
    call.place.pending = true ∧ call.completions = 0 ∧ call.frees = 0 ∨
      call.place = .gone ∧ call.completions = 1 ∧ call.frees = 1
  | .releasing =>
    call.completions = 0 ∧
      (call.place = .unlisted ∧ call.frees = 0 ∨ call.place = .gone ∧ call.frees = 1)
  | .ended false =>
    call.completions = 1 ∧
      (call.place = .unlisted ∧ call.frees = 0 ∨ call.place = .gone ∧ call.frees = 1)

/-- A call is over and its request is off the list. -/
def Call.Over (call : Call ρ κ) : Prop :=
  (∃ sent, call.pc = .ended sent) ∧ call.place.pending = false

/-- What a reader's queue has, by where the request is. -/
def Awaits (reader : Reader ρ) (call : Nat) : Place κ → Prop
  | .listed | .matched _ => reader.queue = none
  | .gone => ∃ event, reader.queue = some event ∧ event.call = call ∧
      (event.success = true → reader.payload = some call)
  | .unlisted | .lost => False

/-- A call is its reader's, by how far it is. -/
def Serves (reader : Reader ρ) (call : Nat) (value : Call ρ κ) : Prop :=
  match value.pc with
  | .begun | .keyed | .releasing => reader.pc = .sending call ∧ reader.queue = none
  | .appended | .sendFailed => reader.pc = .sending call ∧ Awaits reader call value.place
  | .ended true => reader.pc = .waiting call ∧ Awaits reader call value.place
  | .absent | .ended false => False

/-- A call is its reader's, or over. -/
def Joint (reader : Reader ρ) (call : Nat) (value : Call ρ κ) : Prop :=
  if reader.pc.call = some call then Serves reader call value else value.Over

/-- A reader counts no more attempts than it has; between its calls its queue is empty, and it is
done or has attempts left. -/
def Reader.Resting (config : Config) (reader : Reader ρ) : Prop :=
  reader.attempts ≤ config.maxRetry ∧
    (reader.pc.call = none → reader.queue = none ∧
      (reader.pc = .attempting → reader.attempts < config.maxRetry))

/-- The list holds the listed requests, each once, and no two allocated requests have one
address. -/
structure Listed (listed : List Nat) (calls : Nat → Call ρ κ) : Prop where
  mem : ∀ call, call ∈ listed ↔ (calls call).place = .listed
  nodup : listed.Nodup
  apart : ∀ one other, (calls one).place.allocated = true → (calls other).place.allocated = true →
    (calls one).node = (calls other).node → one = other

/-- What holds of the readers in every state. -/
structure Served (config : Config) (calls : Nat → Call ρ κ) (readers : Nat → Reader ρ)
    (nextReader : Nat) : Prop where
  owner : ∀ reader call, (readers reader).pc.call = some call → (calls call).reader = some reader
  joint : ∀ reader call, (calls call).reader = some reader →
    Joint (readers reader) call (calls call)
  resting : ∀ reader, (readers reader).Resting config
  begun : ∀ reader call, (calls call).reader = some reader → reader < nextReader
  early : ∀ reader, nextReader ≤ reader → (readers reader).pc = .absent

/-- What holds in every state. -/
structure Sound (config : Config) (s : State ρ κ) : Prop where
  running : s.stuck = false
  alone : s.raced = false
  listed : Listed s.listed s.calls
  served : Served config s.calls s.readers s.nextReader
  counted : ∀ call, (s.calls call).Counted
  suits : ∀ call reply, (s.calls call).place = .matched reply →
    Suits config call (s.calls call).reader reply
  fresh : ∀ call, s.nextCall ≤ call → (s.calls call).pc = .absent
  lengths : ∀ entry ∈ s.lengths, entry.2 + config.header = entry.1
  taken : ∀ entry ∈ s.taken, entry.event.call = entry.waited ∧
    (entry.event.success = true → entry.payload = some entry.waited)

theorem sound_start [Inhabited ρ] [Inhabited κ] (config : Config) :
    Sound config (State.start : State ρ κ) where
  running := rfl
  alone := rfl
  listed :=
    { mem := fun _ => ⟨fun member => (not_mem_nil member).elim, nofun⟩
      nodup := nodup_nil
      apart := fun _ _ allocated => by cases allocated }
  served :=
    { owner := nofun
      joint := nofun
      resting := fun _ => ⟨Nat.zero_le _, fun _ => ⟨rfl, nofun⟩⟩
      begun := nofun
      early := fun _ _ => rfl }
  counted := fun _ => ⟨rfl, rfl, rfl⟩
  suits := nofun
  fresh := fun _ _ => rfl
  lengths := nofun
  taken := nofun

def CallPc.left : CallPc → Nat
  | .begun => 10
  | .keyed => 9
  | .appended => 4
  | .sendFailed => 3
  | .releasing => 2
  | _ => 1

def Place.left : Place κ → Nat
  | .listed => 3
  | .matched _ => 2
  | _ => 1

def Call.left (call : Call ρ κ) : Nat := call.pc.left + call.place.left

def Reader.left (config : Config) (reader : Reader ρ) (value : Call ρ κ) : Nat :=
  match reader.pc with
  | .absent | .returned _ => 0
  | .attempting => 16 * (config.maxRetry - reader.attempts)
  | .sending _ | .waiting _ => 16 * (config.maxRetry - reader.attempts) + value.left

def State.left (config : Config) (s : State ρ κ) (reader : Nat) : Nat :=
  (s.readers reader).left config (s.calls ((s.readers reader).pc.call.getD 0))

theorem Call.left_pos (call : Call ρ κ) : 0 < call.left := by
  have placed : 0 < call.place.left := by
    cases call.place <;> exact Nat.succ_pos _
  exact Nat.add_pos_right _ placed

theorem Reader.left_of_call {config : Config} {reader : Reader ρ} {call : Nat}
    (current : reader.pc.call = some call) (value : Call ρ κ) :
    reader.left config value = 16 * (config.maxRetry - reader.attempts) + value.left := by
  unfold Reader.left
  cases pc : reader.pc with
  | sending other | waiting other => rfl
  | absent | attempting | returned =>
    rw [pc] at current
    cases current

theorem Reader.left_of_none {config : Config} {reader : Reader ρ} (none : reader.pc.call = none)
    (value other : Call ρ κ) :
    reader.left config value = reader.left config other ∧
      reader.left config value ≤ 16 * (config.maxRetry - reader.attempts) := by
  unfold Reader.left
  cases pc : reader.pc with
  | sending other | waiting other =>
    rw [pc] at none
    cases none
  | absent | returned => exact ⟨rfl, Nat.zero_le _⟩
  | attempting => exact ⟨rfl, le_rfl⟩

theorem ReadPc.ne_absent_of_call {pc : ReadPc} {call : Nat} (current : pc.call = some call) :
    pc ≠ .absent := by
  rintro rfl
  cases current

/-- What a step on a call does to the reader that makes it. -/
structure Advances (config : Config) (before after : Reader ρ) (call : Nat)
    (old value : Call ρ κ) : Prop where
  current : ∀ other, before.pc.call = some other → other = call
  present : before.pc ≠ .absent
  remains : after.pc ≠ .absent
  stands : after.pc.call = some call ∧ Serves after call value ∨
    after.pc.call = none ∧ value.Over
  resting : after.Resting config
  less : after.left config value < before.left config old

theorem Advances.stay {config : Config} {before after : Reader ρ} {call : Nat}
    {old value : Call ρ κ} (current : before.pc.call = some call)
    (here : after.pc.call = some call) (serves : Serves after call value)
    (resting : before.Resting config) (attempts : after.attempts = before.attempts)
    (less : value.left < old.left) : Advances config before after call old value where
  current := fun _ other => Option.some.inj (other.symm.trans current)
  present := ReadPc.ne_absent_of_call current
  remains := ReadPc.ne_absent_of_call here
  stands := .inl ⟨here, serves⟩
  resting := by
    refine ⟨?_, fun none => ?_⟩
    · rw [attempts]
      exact resting.1
    · rw [here] at none
      cases none
  less := by
    rw [Reader.left_of_call current, Reader.left_of_call here, attempts]
    exact Nat.add_lt_add_left less _

theorem Reader.retry_pc (config : Config) (reader : Reader ρ) :
    (reader.retry config).pc.call = none ∧ (reader.retry config).pc ≠ .absent ∧
      (reader.retry config).queue = reader.queue ∧
      (reader.retry config).attempts = reader.attempts ∧
      ((reader.retry config).pc = .attempting → reader.attempts < config.maxRetry) := by
  unfold Reader.retry
  split
  · rename_i more
    exact ⟨rfl, ReadPc.noConfusion, rfl, rfl, fun _ => more⟩
  · exact ⟨rfl, ReadPc.noConfusion, rfl, rfl, nofun⟩

theorem Advances.leave {config : Config} {before after : Reader ρ} {call : Nat}
    {old value : Call ρ κ} (current : before.pc.call = some call)
    (resting : before.Resting config) (gone : value.Over) (left : after.pc.call = none)
    (remains : after.pc ≠ .absent) (queue : after.queue = none)
    (attempts : after.attempts = before.attempts)
    (more : after.pc = .attempting → before.attempts < config.maxRetry) :
    Advances config before after call old value where
  current := fun _ other => Option.some.inj (other.symm.trans current)
  present := ReadPc.ne_absent_of_call current
  remains := remains
  stands := .inr ⟨left, gone⟩
  resting := by
    refine ⟨?_, fun _ => ⟨queue, ?_⟩⟩
    · rw [attempts]
      exact resting.1
    · rw [attempts]
      exact more
  less := by
    have most : after.left config value ≤ 16 * (config.maxRetry - after.attempts) :=
      (Reader.left_of_none left value value).2
    have some := old.left_pos
    rw [attempts] at most
    rw [Reader.left_of_call current]
    omega

theorem tell_self {change : Reader ρ → Reader ρ} {readers : Nat → Reader ρ} (reader : Nat) :
    tell (some reader) change readers reader = change (readers reader) :=
  update_self ..

theorem tell_of_ne {owner : Option Nat} {change : Reader ρ → Reader ρ} {readers : Nat → Reader ρ}
    {reader : Nat} (foreign : owner ≠ some reader) :
    tell owner change readers reader = readers reader := by
  cases owner with
  | none => rfl
  | some meant => exact update_of_ne (fun same => foreign (by rw [same])) ..

section Frame

variable {config : Config} {calls : Nat → Call ρ κ} {readers : Nat → Reader ρ} {nextReader : Nat}
  {call : Nat} {value : Call ρ κ} {change : Reader ρ → Reader ρ}

theorem Served.live (served : Served config calls readers nextReader) {reader : Nat}
    (owned : (calls call).reader = some reader) (running : ¬ (calls call).Over) :
    (readers reader).pc.call = some call ∧ Serves (readers reader) call (calls call) := by
  have joint := served.joint reader call owned
  unfold Joint at joint
  split at joint
  · rename_i current
    exact ⟨current, joint⟩
  · exact absurd joint running

theorem Served.current (served : Served config calls readers nextReader) {reader : Nat}
    (current : (readers reader).pc.call = some call) :
    (calls call).reader = some reader ∧ Serves (readers reader) call (calls call) := by
  have owned := served.owner reader call current
  have joint := served.joint reader call owned
  rw [Joint, if_pos current] at joint
  exact ⟨owned, joint⟩

theorem Served.elsewhere (served : Served config calls readers nextReader)
    (known : (calls call).reader = value.reader ∨ (calls call).pc = .absent) {reader : Nat}
    (foreign : value.reader ≠ some reader) : (readers reader).pc.call ≠ some call := by
  intro current
  obtain ⟨owned, serves⟩ := served.current current
  rcases known with same | absent
  · exact foreign (same.symm.trans owned)
  · simp only [Serves, absent] at serves

/-- A step on one call leaves the readers served, when it does so for the one that makes it. -/
theorem Served.advance (served : Served config calls readers nextReader)
    (known : (calls call).reader = value.reader ∨ (calls call).pc = .absent)
    (own : ∀ reader, value.reader = some reader →
      Advances config (readers reader) (change (readers reader)) call (calls call) value) :
    Served config (update calls call value) (tell value.reader change readers)
      nextReader where
  owner := by
    intro reader other current
    by_cases mine : value.reader = some reader
    · rw [mine, tell_self] at current
      rcases (own reader mine).stands with ⟨here, _⟩ | ⟨none, _⟩
      · cases here.symm.trans current
        rw [update_self]
        exact mine
      · rw [none] at current
        cases current
    · rw [tell_of_ne mine] at current
      have different : other ≠ call := by
        rintro rfl
        exact served.elsewhere known mine current
      rw [update_of_ne different]
      exact served.owner reader other current
  joint := by
    intro reader other owned
    by_cases same : other = call
    · subst same
      rw [update_self] at owned ⊢
      rw [owned, tell_self]
      rcases (own reader owned).stands with ⟨here, serves⟩ | ⟨none, gone⟩
      · rw [Joint, if_pos here]
        exact serves
      · rw [Joint, none, if_neg (Option.some_ne_none other).symm]
        exact gone
    · rw [update_of_ne same] at owned ⊢
      have joint := served.joint reader other owned
      by_cases mine : value.reader = some reader
      · have left : (readers reader).pc.call ≠ some other := fun current =>
          same ((own reader mine).current other current)
        rw [Joint, if_neg left] at joint
        rw [mine, tell_self, Joint, if_neg]
        · exact joint
        · intro current
          rcases (own reader mine).stands with ⟨here, _⟩ | ⟨none, _⟩
          · exact same (Option.some.inj (current.symm.trans here))
          · rw [none] at current
            cases current
      · rw [tell_of_ne mine]
        exact joint
  resting := by
    intro reader
    by_cases mine : value.reader = some reader
    · rw [mine, tell_self]
      exact (own reader mine).resting
    · rw [tell_of_ne mine]
      exact served.resting reader
  begun := by
    intro reader other owned
    by_cases same : other = call
    · subst same
      rw [update_self] at owned
      by_contra late
      exact (own reader owned).present (served.early reader (Nat.le_of_not_lt late))
    · rw [update_of_ne same] at owned
      exact served.begun reader other owned
  early := by
    intro reader late
    have foreign : value.reader ≠ some reader := fun mine =>
      (own reader mine).present (served.early reader late)
    rw [tell_of_ne foreign]
    exact served.early reader late

theorem Served.read (served : Served config calls readers nextReader) {value : Reader ρ}
    (between : value.pc.call = none) (resting : value.Resting config) :
    Served config calls (update readers nextReader value) (nextReader + 1) where
  owner := by
    intro reader call current
    by_cases own : reader = nextReader
    · subst own
      rw [update_self, between] at current
      cases current
    · rw [update_of_ne own] at current
      exact served.owner reader call current
  joint := by
    intro reader call owned
    rw [update_of_ne (Nat.ne_of_lt (served.begun reader call owned))]
    exact served.joint reader call owned
  resting := by
    intro reader
    by_cases own : reader = nextReader
    · subst own
      rw [update_self]
      exact resting
    · rw [update_of_ne own]
      exact served.resting reader
  begun := fun reader call owned => Nat.lt_succ_of_lt (served.begun reader call owned)
  early := by
    intro reader late
    rw [update_of_ne (Nat.ne_of_gt late)]
    exact served.early reader (Nat.le_of_succ_le late)

end Frame

/-- A reader that has begun stays so, and no more is left before it; less is left before the
reader that the step is about. -/
def Progress (config : Config) (s t : State ρ κ) (owner : Option Nat) : Prop :=
  ∀ reader, (s.readers reader).pc ≠ .absent →
    (t.readers reader).pc ≠ .absent ∧ t.left config reader ≤ s.left config reader ∧
      (owner = some reader → t.left config reader < s.left config reader)

theorem Progress.refl {config : Config} {s t : State ρ κ} (calls : t.calls = s.calls)
    (readers : t.readers = s.readers) : Progress config s t none := by
  intro reader present
  unfold State.left
  rw [calls, readers]
  exact ⟨present, le_rfl, nofun⟩

/-- A step on one call is progress for the reader that makes it. -/
theorem Served.progress {config : Config} {s t : State ρ κ} {call : Nat} {value : Call ρ κ}
    {change : Reader ρ → Reader ρ} (served : Served config s.calls s.readers s.nextReader)
    (known : (s.calls call).reader = value.reader ∨ (s.calls call).pc = .absent)
    (own : ∀ reader, value.reader = some reader →
      Advances config (s.readers reader) (change (s.readers reader)) call (s.calls call) value)
    (calls : t.calls = update s.calls call value)
    (readers : t.readers = tell value.reader change s.readers) :
    Progress config s t value.reader := by
  intro reader present
  by_cases mine : value.reader = some reader
  · have advances := own reader mine
    have told : t.readers reader = change (s.readers reader) := by
      rw [readers, mine, tell_self]
    have less : t.left config reader < s.left config reader := by
      have before : s.left config reader = (s.readers reader).left config (s.calls call) := by
        unfold State.left
        cases current : (s.readers reader).pc.call with
        | none => exact (Reader.left_of_none current _ _).1
        | some other =>
          rw [advances.current other current]
          rfl
      have after : t.left config reader = (change (s.readers reader)).left config value := by
        unfold State.left
        rw [told]
        rcases advances.stands with ⟨here, _⟩ | ⟨none, _⟩
        · rw [here, calls]
          exact congrArg _ (update_self ..)
        · exact (Reader.left_of_none none _ _).1
      rw [before, after]
      exact advances.less
    rw [told]
    exact ⟨advances.remains, Nat.le_of_lt less, fun _ => less⟩
  · have told : t.readers reader = s.readers reader := by rw [readers, tell_of_ne mine]
    have same : t.left config reader = s.left config reader := by
      unfold State.left
      rw [told]
      cases current : (s.readers reader).pc.call with
      | none => exact (Reader.left_of_none current _ _).1
      | some other =>
        have different : other ≠ call := by
          rintro rfl
          exact served.elsewhere known mine current
        rw [calls]
        exact congrArg _ (update_of_ne different ..)
    rw [told]
    exact ⟨present, Nat.le_of_eq same, fun owned => absurd owned mine⟩

section List

variable {listed list : List Nat} {calls : Nat → Call ρ κ} {call : Nat} {value : Call ρ κ}

theorem Listed.advance (order : Listed listed calls)
    (mem : ∀ other, other ∈ list ↔ if other = call then value.place = .listed else other ∈ listed)
    (nodup : list.Nodup)
    (fresh : value.place.allocated = true → ∀ other ≠ call,
      (calls other).place.allocated = true → (calls other).node ≠ value.node) :
    Listed list (update calls call value) where
  mem := by
    intro other
    rw [mem]
    by_cases same : other = call
    · subst same
      rw [if_pos rfl, update_self]
    · rw [if_neg same, update_of_ne same]
      exact order.mem other
  nodup := nodup
  apart := by
    intro one other first second equal
    by_cases left : one = call
    · by_cases right : other = call
      · rw [left, right]
      · subst left
        rw [update_self] at first equal
        rw [update_of_ne right] at second equal
        exact absurd equal.symm (fresh first other right second)
    · rw [update_of_ne left] at first equal
      by_cases right : other = call
      · subst right
        rw [update_self] at second equal
        exact absurd equal (fresh second one left first)
      · rw [update_of_ne right] at second equal
        exact order.apart one other first second equal

theorem Listed.keep (order : Listed listed calls) (place : value.place = (calls call).place)
    (node : value.node = (calls call).node) :
    Listed listed (update calls call value) := by
  apply order.advance
  · intro other
    split
    · rename_i same
      rw [same, place]
      exact order.mem call
    · exact Iff.rfl
  · exact order.nodup
  · rw [place, node]
    intro allocated other different second equal
    exact different (order.apart other call second allocated equal)

theorem Listed.erase (order : Listed listed calls) (member : call ∈ listed)
    (place : value.place ≠ .listed) (node : value.node = (calls call).node) :
    Listed (listed.erase call) (update calls call value) := by
  apply order.advance
  · intro other
    rw [order.nodup.mem_erase_iff]
    split
    · rename_i same
      simp [same, place]
    · rename_i different
      simp [different]
  · exact order.nodup.erase call
  · rw [node]
    intro _ other different second equal
    have allocated : (calls call).place.allocated = true := by
      rw [(order.mem call).mp member]
      rfl
    exact different (order.apart other call second allocated equal)

theorem Listed.append (order : Listed listed calls) (idle : call ∉ listed)
    (place : value.place = .listed)
    (fresh : ∀ other, (calls other).place.allocated = true → (calls other).node ≠ value.node) :
    Listed (listed ++ [call]) (update calls call value) := by
  apply order.advance
  · intro other
    split
    · rename_i same
      simp [same, place]
    · rename_i different
      simp [different]
  · rw [nodup_append_comm]
    exact List.nodup_cons.mpr ⟨idle, order.nodup⟩
  · exact fun _ other _ => fresh other

theorem Listed.aside (order : Listed listed calls) (idle : call ∉ listed)
    (freed : value.place.allocated = false) :
    Listed listed (update calls call value) := by
  apply order.advance
  · intro other
    split
    · rename_i same
      rw [same]
      refine ⟨fun member => absurd member idle, fun place => ?_⟩
      rw [place] at freed
      cases freed
    · exact Iff.rfl
  · exact order.nodup
  · intro allocated
    rw [freed] at allocated
    cases allocated

end List

section Steps

variable {config : Config} {s : State ρ κ} {call : Nat} {value : Call ρ κ}
  {change : Reader ρ → Reader ρ}

theorem Sound.made (sound : Sound config s) (running : (s.calls call).pc ≠ .absent) :
    call < s.nextCall := by
  by_contra late
  exact running (sound.fresh call (Nat.le_of_not_lt late))

/-- A step on one call keeps everything, when it does so for that call and the reader that
makes it. -/
theorem Sound.advance (sound : Sound config s) {list : List Nat} {next : Nat}
    {lengths : List (Nat × Nat)}
    (known : (s.calls call).reader = value.reader ∨ (s.calls call).pc = .absent)
    (own : ∀ reader, value.reader = some reader → Advances config (s.readers reader)
      (change (s.readers reader)) call (s.calls call) value)
    (listed : Listed list (update s.calls call value)) (counted : value.Counted)
    (suits : ∀ reply, value.place = .matched reply → Suits config call value.reader reply)
    (made : call < next) (later : s.nextCall ≤ next)
    (measured : ∀ entry ∈ lengths, entry.2 + config.header = entry.1) :
    Sound config { s.advance call value change with listed := list, nextCall := next, lengths } ∧
      Progress config s
        { s.advance call value change with listed := list, nextCall := next, lengths }
        value.reader := by
  refine ⟨⟨sound.running, sound.alone, listed, sound.served.advance known own, ?_, ?_, ?_, measured,
    sound.taken⟩, sound.served.progress known own rfl rfl⟩
  · intro other
    show (update s.calls call value other).Counted
    by_cases same : other = call
    · subst same
      rw [update_self]
      exact counted
    · rw [update_of_ne same]
      exact sound.counted other
  · intro other reply
    show (update s.calls call value other).place = _ →
      Suits config other (update s.calls call value other).reader reply
    by_cases same : other = call
    · subst same
      rw [update_self]
      exact suits reply
    · rw [update_of_ne same]
      exact sound.suits other reply
  · intro other late
    show (update s.calls call value other).pc = .absent
    have different : other ≠ call := by
      rintro rfl
      exact Nat.lt_irrefl _ (Nat.lt_of_lt_of_le made late)
    rw [update_of_ne different]
    exact sound.fresh other (Nat.le_trans later late)

theorem Sound.goes (sound : Sound config s) (running : (s.calls call).pc ≠ .absent)
    (same : value.reader = (s.calls call).reader ∧ value.place = (s.calls call).place ∧
      value.node = (s.calls call).node)
    (counted : value.Counted)
    (own : ∀ reader, value.reader = some reader → Advances config (s.readers reader)
      (change (s.readers reader)) call (s.calls call) value) :
    Sound config (s.advance call value change) ∧
      Progress config s (s.advance call value change) value.reader := by
  obtain ⟨reader, place, node⟩ := same
  refine sound.advance (.inl reader.symm) own (sound.listed.keep place node) counted ?_
    (sound.made running) le_rfl sound.lengths
  intro reply matched
  rw [reader]
  exact sound.suits call reply (place.symm.trans matched)

theorem Call.not_over {value : Call ρ κ} (running : ∀ sent, value.pc ≠ .ended sent) :
    ¬ value.Over := fun ended => ended.1.elim running

theorem Call.not_over_of_pending {value : Call ρ κ} (pending : value.place.pending = true) :
    ¬ value.Over := by
  intro ended
  have idle := ended.2
  rw [pending] at idle
  cases idle

theorem Sound.steps (sound : Sound config s) (running : ∀ sent, (s.calls call).pc ≠ .ended sent)
    (made : (s.calls call).pc ≠ .absent)
    (same : value.reader = (s.calls call).reader ∧ value.place = (s.calls call).place ∧
      value.node = (s.calls call).node)
    (counted : (s.calls call).Counted → value.Counted)
    (serves : ∀ reader : Reader ρ, Serves reader call (s.calls call) → Serves reader call value)
    (less : value.left < (s.calls call).left) :
    Sound config (s.advance call value id) ∧
      Progress config s (s.advance call value id) value.reader := by
  apply sound.goes made same (counted (sound.counted call))
  intro reader mine
  rw [same.1] at mine
  obtain ⟨current, serving⟩ := sound.served.live mine (Call.not_over running)
  exact .stay current current (serves _ serving) (sound.served.resting reader) rfl less

theorem Sound.key (sound : Sound config s) (begun : (s.calls call).pc = .begun) (key : κ) :
    Sound config (s.advance call { s.calls call with key, pc := .keyed } id) ∧
      Progress config s (s.advance call { s.calls call with key, pc := .keyed } id)
        (s.calls call).reader := by
  apply sound.steps
  · simp [begun]
  · simp [begun]
  · exact ⟨rfl, rfl, rfl⟩
  · intro counted
    simpa only [Call.Counted, begun] using counted
  · intro reader serves
    simpa only [Serves, begun] using serves
  · simp [Call.left, CallPc.left, begun]

theorem Sound.append_none (sound : Sound config s) (keyed : (s.calls call).pc = .keyed) :
    Sound config (s.advance call { s.calls call with pc := .releasing } id) ∧
      Progress config s (s.advance call { s.calls call with pc := .releasing } id)
        (s.calls call).reader := by
  apply sound.steps
  · simp [keyed]
  · simp [keyed]
  · exact ⟨rfl, rfl, rfl⟩
  · intro counted
    simp only [Call.Counted, keyed] at counted ⊢
    exact ⟨counted.2.1, .inl ⟨counted.1, counted.2.2⟩⟩
  · intro reader serves
    simpa only [Serves, keyed] using serves
  · simp [Call.left, CallPc.left, keyed]

theorem Sound.sent_false (sound : Sound config s) (appended : (s.calls call).pc = .appended) :
    Sound config (s.advance call { s.calls call with pc := .sendFailed } id) ∧
      Progress config s (s.advance call { s.calls call with pc := .sendFailed } id)
        (s.calls call).reader := by
  apply sound.steps
  · simp [appended]
  · simp [appended]
  · exact ⟨rfl, rfl, rfl⟩
  · intro counted
    simpa only [Call.Counted, appended] using counted
  · intro reader serves
    simpa only [Serves, appended] using serves
  · simp [Call.left, CallPc.left, appended]

theorem Awaits.congr {before after : Reader ρ} {place : Place κ}
    (awaits : Awaits before call place) (queue : after.queue = before.queue)
    (payload : after.payload = before.payload) : Awaits after call place := by
  cases place with
  | listed | matched =>
    simp only [Awaits] at awaits ⊢
    rw [queue]
    exact awaits
  | gone =>
    simp only [Awaits] at awaits ⊢
    rw [queue, payload]
    exact awaits
  | unlisted | lost => exact awaits.elim

theorem Sound.sent_true (sound : Sound config s) (appended : (s.calls call).pc = .appended) :
    Sound config (s.advance call { s.calls call with pc := .ended true }
        fun reader => { reader with pc := .waiting call }) ∧
      Progress config s (s.advance call { s.calls call with pc := .ended true }
        fun reader => { reader with pc := .waiting call }) (s.calls call).reader := by
  apply sound.goes
  · simp [appended]
  · exact ⟨rfl, rfl, rfl⟩
  · have counted := sound.counted call
    simpa only [Call.Counted, appended] using counted
  · intro reader mine
    have running : ¬ (s.calls call).Over := Call.not_over (by simp [appended])
    obtain ⟨current, serves⟩ := sound.served.live mine running
    simp only [Serves, appended] at serves
    apply Advances.stay current
    · rfl
    · exact ⟨rfl, serves.2.congr rfl rfl⟩
    · exact sound.served.resting reader
    · rfl
    · simp [Call.left, CallPc.left, appended]

theorem Sound.release (sound : Sound config s) (releasing : (s.calls call).pc = .releasing) :
    Sound config (s.advance call
        { s.calls call with pc := .ended false, completions := (s.calls call).completions + 1 }
        (Reader.retry config)) ∧
      Progress config s (s.advance call
        { s.calls call with pc := .ended false, completions := (s.calls call).completions + 1 }
        (Reader.retry config)) (s.calls call).reader := by
  have counted := sound.counted call
  simp only [Call.Counted, releasing] at counted
  apply sound.goes
  · simp [releasing]
  · exact ⟨rfl, rfl, rfl⟩
  · exact ⟨by rw [counted.1], counted.2⟩
  · intro reader mine
    have running : ¬ (s.calls call).Over := Call.not_over (by simp [releasing])
    obtain ⟨current, serves⟩ := sound.served.live mine running
    simp only [Serves, releasing] at serves
    obtain ⟨left, remains, queue, attempts, more⟩ := (s.readers reader).retry_pc config
    apply Advances.leave current (sound.served.resting reader) _ left remains _ attempts more
    · refine ⟨⟨false, rfl⟩, ?_⟩
      rcases counted.2 with ⟨unlisted, _⟩ | ⟨gone, _⟩
      · show (s.calls call).place.pending = false
        rw [unlisted]
        rfl
      · show (s.calls call).place.pending = false
        rw [gone]
        rfl
    · rw [queue]
      exact serves.2

/-- The request is listed at an address that no allocated request has. -/
theorem Sound.append_some (sound : Sound config s) (keyed : (s.calls call).pc = .keyed) {node : Nat}
    (free : ∀ other < s.nextCall, (s.calls other).place.allocated = true →
      (s.calls other).node ≠ node) :
    Sound config { s.advance call
        { s.calls call with node, pc := .appended, place := .listed } id with
        listed := s.listed ++ [call] } ∧
      Progress config s { s.advance call
        { s.calls call with node, pc := .appended, place := .listed } id with
        listed := s.listed ++ [call] } (s.calls call).reader := by
  have counted := sound.counted call
  simp only [Call.Counted, keyed] at counted
  have idle : call ∉ s.listed := by
    rw [sound.listed.mem, counted.1]
    simp
  have made : call < s.nextCall := sound.made (by simp [keyed])
  refine sound.advance (.inl rfl) ?_ (sound.listed.append idle rfl ?_) (.inl ⟨rfl, counted.2⟩) ?_
    made le_rfl sound.lengths
  · intro reader mine
    have running : ¬ (s.calls call).Over := Call.not_over (by simp [keyed])
    obtain ⟨current, serves⟩ := sound.served.live mine running
    simp only [Serves, keyed] at serves
    apply Advances.stay current current
    · exact serves
    · exact sound.served.resting reader
    · rfl
    · simp [Call.left, CallPc.left, Place.left, keyed, counted.1]
  · intro other allocated
    apply free other _ allocated
    by_contra late
    have absent := sound.fresh other (Nat.le_of_not_lt late)
    have never := sound.counted other
    simp only [Call.Counted, absent] at never
    rw [never.1] at allocated
    cases allocated
  · intro reply matched
    cases matched

theorem Call.Counted.of_pending {value : Call ρ κ} (counted : value.Counted)
    (pending : value.place.pending = true) :
    (value.pc = .appended ∨ value.pc = .sendFailed ∨ value.pc = .ended true) ∧
      value.completions = 0 ∧ value.frees = 0 := by
  have unlisted : value.place ≠ .unlisted := by
    intro place
    rw [place] at pending
    cases pending
  have there : value.place ≠ .gone := by
    intro place
    rw [place] at pending
    cases pending
  unfold Call.Counted at counted
  split at counted
  · exact absurd counted.1 unlisted
  · exact absurd counted.1 unlisted
  · exact absurd counted.1 unlisted
  · rename_i pc
    exact ⟨.inl pc, (counted.resolve_right fun gone => there gone.1).2⟩
  · rename_i pc
    exact ⟨.inr (.inl pc), (counted.resolve_right fun gone => there gone.1).2⟩
  · rename_i pc
    exact ⟨.inr (.inr pc), (counted.resolve_right fun gone => there gone.1).2⟩
  · exact absurd (counted.2.resolve_right fun gone => there gone.1).1 unlisted
  · exact absurd (counted.2.resolve_right fun gone => there gone.1).1 unlisted

theorem Sound.awaits (sound : Sound config s) (pending : (s.calls call).place.pending = true)
    {reader : Nat} (mine : (s.calls call).reader = some reader) :
    (s.readers reader).pc.call = some call ∧ (s.readers reader).queue = none ∧
      ∀ (after : Reader ρ) (later : Call ρ κ), after.pc = (s.readers reader).pc →
        later.pc = (s.calls call).pc → Awaits after call later.place →
        Serves after call later := by
  obtain ⟨current, serves⟩ := sound.served.live mine (Call.not_over_of_pending pending)
  have empty : Awaits (s.readers reader) call (s.calls call).place →
      (s.readers reader).queue = none := by
    intro awaits
    cases place : (s.calls call).place with
    | listed | matched =>
      rw [place] at awaits
      exact awaits
    | unlisted | gone | lost =>
      rw [place] at pending
      cases pending
  rcases ((sound.counted call).of_pending pending).1 with pc | pc | pc
  all_goals
    simp only [Serves, pc] at serves
    refine ⟨current, empty serves.2, ?_⟩
    intro after later same still awaits
    simp only [Serves, still, pc]
    rw [same]
    exact ⟨serves.1, awaits⟩

theorem Call.Counted.replace {value later : Call ρ κ} (counted : value.Counted)
    (pending : value.place.pending = true) (pc : later.pc = value.pc)
    (now : later.place.pending = true ∧ later.completions = 0 ∧ later.frees = 0 ∨
      later.place = .gone ∧ later.completions = 1 ∧ later.frees = 1) : later.Counted := by
  rcases (counted.of_pending pending).1 with here | here | here
  all_goals
    simp only [Call.Counted, pc, here]
    exact now

theorem Sound.replace (sound : Sound config s) {list : List Nat} {lengths : List (Nat × Nat)}
    (pending : (s.calls call).place.pending = true)
    (same : value.reader = (s.calls call).reader ∧ value.pc = (s.calls call).pc)
    (now : value.place.pending = true ∧ value.completions = 0 ∧ value.frees = 0 ∨
      value.place = .gone ∧ value.completions = 1 ∧ value.frees = 1)
    (listed : Listed list (update s.calls call value))
    (less : value.place.left < (s.calls call).place.left)
    (suits : ∀ reply, value.place = .matched reply → Suits config call value.reader reply)
    (told : ∀ reader, value.reader = some reader → (s.readers reader).queue = none →
      (change (s.readers reader)).pc = (s.readers reader).pc ∧
      (change (s.readers reader)).attempts = (s.readers reader).attempts ∧
      Awaits (change (s.readers reader)) call value.place)
    (measured : ∀ entry ∈ lengths, entry.2 + config.header = entry.1) :
    Sound config { s.advance call value change with listed := list, lengths } ∧
      Progress config s { s.advance call value change with listed := list, lengths }
        value.reader := by
  have counted := (sound.counted call).replace pending same.2 now
  have made : (s.calls call).pc ≠ .absent := by
    rcases ((sound.counted call).of_pending pending).1 with pc | pc | pc
    all_goals
      rw [pc]
      exact nofun
  refine sound.advance (.inl same.1.symm) ?_ listed counted suits (sound.made made) le_rfl
    measured
  intro reader mine
  have owned := mine
  rw [same.1] at owned
  obtain ⟨current, empty, serving⟩ := sound.awaits pending owned
  obtain ⟨pc, attempts, awaits⟩ := told reader mine empty
  apply Advances.stay current
  · rw [pc]
    exact current
  · exact serving _ _ pc same.2 awaits
  · exact sound.served.resting reader
  · exact attempts
  · simp only [Call.left, same.2]
    exact Nat.add_lt_add_left less _

theorem Sound.pending_of_mem (sound : Sound config s) (member : call ∈ s.listed) :
    (s.calls call).place = .listed ∧ (s.calls call).place.pending = true := by
  have place := (sound.listed.mem call).mp member
  refine ⟨place, ?_⟩
  rw [place]
  rfl

theorem Sound.match (sound : Sound config s) (member : call ∈ s.listed) {reply : Reply κ}
    (suits : Suits config call (s.calls call).reader reply) :
    Sound config { s.advance call { s.calls call with place := .matched reply } id with
        listed := s.listed.erase call } ∧
      Progress config s { s.advance call { s.calls call with place := .matched reply } id with
        listed := s.listed.erase call } (s.calls call).reader := by
  obtain ⟨place, pending⟩ := sound.pending_of_mem member
  have counts := ((sound.counted call).of_pending pending).2
  apply sound.replace pending
  · exact ⟨rfl, rfl⟩
  · exact .inl ⟨rfl, counts⟩
  · exact sound.listed.erase member (by simp) rfl
  · rw [place]
    simp [Place.left]
  · intro other matched
    obtain rfl := Place.matched.inj matched
    exact suits
  · exact fun _ _ empty => ⟨rfl, rfl, empty⟩
  · exact sound.lengths

theorem Reader.put_empty {reader : Reader ρ} (empty : reader.queue = none) (event : ReadEvent) :
    reader.put event = { reader with queue := some event } := by
  unfold Reader.put
  rw [empty]

theorem Sound.expire [DecidableEq κ] (sound : Sound config s) (member : call ∈ s.listed) :
    Sound config (s.expire call true) ∧
      Progress config s (s.expire call true) (s.calls call).reader := by
  obtain ⟨place, pending⟩ := sound.pending_of_mem member
  have counts := ((sound.counted call).of_pending pending).2
  apply sound.replace pending
  · exact ⟨rfl, rfl⟩
  · exact .inr ⟨rfl, by rw [counts.1], by rw [counts.2]⟩
  · exact sound.listed.erase member (by simp) rfl
  · rw [place]
    simp [Place.left]
  · intro reply matched
    cases matched
  · intro reader _ empty
    rw [Reader.put_empty empty]
    exact ⟨rfl, rfl, _, rfl, rfl, nofun⟩
  · exact sound.lengths

theorem Sound.callback [DecidableEq κ] (sound : Sound config s) {reply : Reply κ}
    (matched : (s.calls call).place = .matched reply) :
    Sound config (s.callback config call reply) ∧
      Progress config s (s.callback config call reply) (s.calls call).reader := by
  have pending : (s.calls call).place.pending = true := by
    rw [matched]
    rfl
  have counts := ((sound.counted call).of_pending pending).2
  obtain ⟨fits, answers⟩ := sound.suits call reply matched
  have length := Config.payloadLen_add fits
  apply sound.replace pending
  · exact ⟨rfl, rfl⟩
  · exact .inr ⟨rfl, by rw [counts.1], by rw [counts.2]⟩
  · apply sound.listed.aside
    · rw [sound.listed.mem, matched]
      simp
    · rfl
  · rw [matched]
    exact Nat.lt_succ_self 1
  · intro other again
    cases again
  · intro reader mine empty
    obtain ⟨answer, full⟩ := answers (by
      show (s.calls call).reader ≠ none
      rw [show (s.calls call).reader = some reader from mine]
      exact Option.some_ne_none reader)
    have kept : ¬ (config.silentEmpty = true ∧ config.payloadLen reply.len = 0) := by
      rintro ⟨silent, empty⟩
      have more := full silent
      omega
    simp only [Reader.handle, if_neg kept, Reader.put, empty]
    exact ⟨trivial, trivial, _, rfl, rfl, fun _ => by rw [answer]⟩
  · intro entry recorded
    rcases List.mem_append.mp recorded with before | now
    · exact sound.lengths entry before
    · obtain rfl := List.mem_singleton.mp now
      exact length

theorem Sound.remove_eq (sound : Sound config s) (place : (s.calls call).place = .listed) :
    s.remove call false = { s.advance call
        { s.calls call with
          pc := .releasing
          place := .gone
          frees := (s.calls call).frees + 1 } id with
      listed := s.listed.erase call } := by
  have member : call ∈ s.listed := (sound.listed.mem call).mpr place
  have found : s.listed.find? (fun other => (s.calls other).node == (s.calls call).node) =
      some call := by
    cases looked : s.listed.find? fun other => (s.calls other).node == (s.calls call).node with
    | none =>
      have differs := List.find?_eq_none.mp looked call member
      simp at differs
    | some other =>
      have node := find?_some looked
      have listed := (sound.listed.mem other).mp (mem_of_find?_eq_some looked)
      rw [sound.listed.apart other call (by rw [listed]; rfl) (by rw [place]; rfl)
        (by simpa using node)]
  unfold State.remove
  rw [found]
  cases owner : (s.calls call).reader <;> simp [State.advance, tell, owner, sound.alone]

theorem Sound.remove (sound : Sound config s) (failed : (s.calls call).pc = .sendFailed)
    (place : (s.calls call).place = .listed) :
    Sound config (s.remove call false) ∧
      Progress config s (s.remove call false) (s.calls call).reader := by
  have member : call ∈ s.listed := (sound.listed.mem call).mpr place
  have counts := ((sound.counted call).of_pending (sound.pending_of_mem member).2).2
  have made : call < s.nextCall := sound.made (by simp [failed])
  rw [sound.remove_eq place]
  refine sound.advance (.inl rfl) ?_ (sound.listed.erase member (by simp) rfl)
    ⟨counts.1, .inr ⟨rfl, by rw [counts.2]⟩⟩ nofun made
    le_rfl sound.lengths
  intro reader mine
  have running : ¬ (s.calls call).Over := Call.not_over (by simp [failed])
  obtain ⟨current, serves⟩ := sound.served.live mine running
  simp only [Serves, failed, place] at serves
  apply Advances.stay current current
  · exact serves
  · exact sound.served.resting reader
  · rfl
  · simp [Call.left, CallPc.left, Place.left, failed, place]

theorem Advances.attempt {reader : Reader ρ} {old : Call ρ κ} (resting : reader.Resting config)
    (attempting : reader.pc = .attempting) (call : Nat) (found : Bool)
    (value : Call ρ κ) (shape : if found then value.pc = .begun ∧ value.place = .unlisted
      else value.pc = .ended false ∧ value.place = .unlisted) :
    Advances config reader (reader.attempt config call found) call old value := by
  have between : reader.pc.call = none := by
    rw [attempting]
    rfl
  obtain ⟨empty, more⟩ := resting.2 between
  have left := more attempting
  have before : reader.left config old = 16 * (config.maxRetry - reader.attempts) := by
    unfold Reader.left
    rw [attempting]
  have current : ∀ other, reader.pc.call = some other → other = call := by
    intro other inside
    rw [between] at inside
    cases inside
  have present : reader.pc ≠ .absent := by
    rw [attempting]
    exact nofun
  cases found with
  | true =>
    refine ⟨current, present, ReadPc.noConfusion, .inl ⟨rfl, ?_⟩, ⟨left, fun none => ?_⟩, ?_⟩
    · simp only [Serves, shape.1]
      exact ⟨rfl, empty⟩
    · cases none
    · have inside : (reader.attempt config call true).pc.call = some call := rfl
      rw [before, Reader.left_of_call inside]
      simp only [Reader.attempt, if_true, Call.left, shape.1, shape.2, CallPc.left, Place.left]
      omega
  | false =>
    obtain ⟨gone, remains, queue, attempts, again⟩ :=
      ({ reader with attempts := reader.attempts + 1 } : Reader ρ).retry_pc config
    refine ⟨current, present, remains, .inr ⟨gone, ⟨⟨false, shape.1⟩, by rw [shape.2]; rfl⟩⟩,
      ⟨?_, fun _ => ⟨queue.trans empty, fun attempting => ?_⟩⟩, ?_⟩
    · exact Nat.le_trans (Nat.le_of_eq attempts) left
    · exact Nat.lt_of_le_of_lt (Nat.le_of_eq attempts) (again attempting)
    · have most : ({ reader with attempts := reader.attempts + 1 }.retry config).left config value ≤
          16 * (config.maxRetry -
            ({ reader with attempts := reader.attempts + 1 }.retry config).attempts) :=
        (Reader.left_of_none gone value value).2
      rw [attempts] at most
      refine Nat.lt_of_le_of_lt most ?_
      dsimp only
      omega

theorem Sound.begin [Inhabited κ] (sound : Sound config s) (reader : Option Nat) (request : ρ)
    (found : Bool)
    (attempting : ∀ maker, reader = some maker → (s.readers maker).pc = .attempting) :
    Sound config (s.begin config reader request found) ∧
      Progress config s (s.begin config reader request found) reader := by
  have absent := sound.fresh s.nextCall le_rfl
  have never := sound.counted s.nextCall
  simp only [Call.Counted, absent] at never
  have idle : s.nextCall ∉ s.listed := by
    rw [sound.listed.mem, never.1]
    simp
  cases found with
  | true =>
    refine sound.advance (.inr absent) ?_ (sound.listed.aside idle rfl) ⟨rfl, rfl, rfl⟩
      nofun (Nat.lt_succ_self _) (Nat.le_succ _) sound.lengths
    intro maker mine
    exact .attempt (sound.served.resting maker) (attempting maker mine) _ true _ ⟨rfl, rfl⟩
  | false =>
    refine sound.advance (.inr absent) ?_ (sound.listed.aside idle rfl)
      ⟨rfl, .inl ⟨rfl, rfl⟩⟩ nofun (Nat.lt_succ_self _)
      (Nat.le_succ _) sound.lengths
    intro maker mine
    exact .attempt (sound.served.resting maker) (attempting maker mine) _ false _ ⟨rfl, rfl⟩

theorem Sound.read (sound : Sound config s) (request : ρ) (rbufLen : Nat) {pc : ReadPc}
    (begins : pc = .attempting ∧ 0 < config.maxRetry ∨ pc = .returned 0) :
    Sound config { s with
        readers := update s.readers s.nextReader ⟨request, rbufLen, 0, none, 0, none, pc⟩
        nextReader := s.nextReader + 1 } ∧
      Progress config s { s with
        readers := update s.readers s.nextReader ⟨request, rbufLen, 0, none, 0, none, pc⟩
        nextReader := s.nextReader + 1 } none := by
  let value : Reader ρ := ⟨request, rbufLen, 0, none, 0, none, pc⟩
  have between : value.pc.call = none := by
    rcases begins with ⟨rfl, _⟩ | rfl <;> rfl
  have resting : value.Resting config := by
    refine ⟨Nat.zero_le _, fun _ => ⟨rfl, fun attempting => ?_⟩⟩
    rcases begins with ⟨_, some⟩ | done
    · exact some
    · rw [show pc = .attempting from attempting] at done
      cases done
  have served := sound.served.read between resting
  refine ⟨{ sound with served := served }, ?_⟩
  intro reader present
  have different : reader ≠ s.nextReader := by
    rintro rfl
    exact present (sound.served.early s.nextReader le_rfl)
  unfold State.left
  dsimp only
  rw [update_of_ne different]
  exact ⟨present, le_rfl, nofun⟩

/-- A reader that waits for a call gets the event of that call. -/
theorem Sound.get (sound : Sound config s) {reader : Nat} {event : ReadEvent}
    (waiting : (s.readers reader).pc = .waiting call)
    (queue : (s.readers reader).queue = some event) :
    Sound config { s with
        readers := update s.readers reader ((s.readers reader).got config event)
        taken := s.taken ++ [⟨call, event, (s.readers reader).payload⟩] } ∧
      Progress config s { s with
        readers := update s.readers reader ((s.readers reader).got config event)
        taken := s.taken ++ [⟨call, event, (s.readers reader).payload⟩] } (some reader) := by
  have current : (s.readers reader).pc.call = some call := by
    rw [waiting]
    rfl
  obtain ⟨owned, serves⟩ := sound.served.current current
  have ended : (s.calls call).pc = .ended true ∧
      Awaits (s.readers reader) call (s.calls call).place := by
    unfold Serves at serves
    split at serves
    · rw [waiting] at serves
      cases serves.1
    · rw [waiting] at serves
      cases serves.1
    · rw [waiting] at serves
      cases serves.1
    · rw [waiting] at serves
      cases serves.1
    · rw [waiting] at serves
      cases serves.1
    · rename_i pc
      exact ⟨pc, serves.2⟩
    · exact serves.elim
    · exact serves.elim
  have gone : (s.calls call).place.pending = false ∧ event.call = call ∧
      (event.success = true → (s.readers reader).payload = some call) := by
    have awaits := ended.2
    cases place : (s.calls call).place with
    | listed | matched =>
      rw [place] at awaits
      simp only [Awaits, queue] at awaits
      cases awaits
    | gone =>
      rw [place] at awaits
      obtain ⟨other, held, about, answered⟩ := awaits
      cases queue.symm.trans held
      exact ⟨rfl, about, answered⟩
    | unlisted | lost =>
      rw [place] at awaits
      exact awaits.elim
  have own : ∀ maker, (s.calls call).reader = some maker →
      Advances config (s.readers maker) ((s.readers maker).got config event) call
        (s.calls call) (s.calls call) := by
    intro maker mine
    obtain rfl := Option.some.inj (mine.symm.trans owned)
    have resting := sound.served.resting maker
    obtain ⟨left, remains, empty, attempts, more⟩ :=
      ({ s.readers maker with queue := none } : Reader ρ).retry_pc config
    have closed : (s.calls call).Over := ⟨⟨true, ended.1⟩, gone.1⟩
    unfold Reader.got
    split
    · exact .leave current resting closed rfl ReadPc.noConfusion rfl rfl
        nofun
    · exact .leave current resting closed left remains empty attempts more
  have still : update s.calls call (s.calls call) = s.calls :=
    update_eq_self call s.calls
  have told : tell (s.calls call).reader (Reader.got config event) s.readers =
      update s.readers reader ((s.readers reader).got config event) := by
    rw [owned]
    rfl
  have served := sound.served.advance (.inl rfl) own
  rw [still, told] at served
  constructor
  · refine { sound with served := served, taken := ?_ }
    intro entry member
    rcases List.mem_append.mp member with before | now
    · exact sound.taken entry before
    · obtain rfl := List.mem_singleton.mp now
      exact gone.2
  · rw [← owned]
    exact sound.served.progress (.inl rfl) own still.symm told.symm

def Event.owner [DecidableEq κ] (s : State ρ κ) : Event ρ κ → Option Nat
  | .attempt reader _ | .get reader => some reader
  | .key call _ | .append call _ | .sent call _ | .remove call _ | .release call | .callback call
  | .expire call _ => (s.calls call).reader
  | .read .. | .send .. | .response .. => none

theorem Progress.weaken {t : State ρ κ} {owner : Option Nat}
    (progress : Progress config s t owner) :
    Progress config s t none := by
  intro reader present
  obtain ⟨remains, most, _⟩ := progress reader present
  exact ⟨remains, most, nofun⟩

/-- Every guarded step keeps everything, and is progress for the reader it is a step of. -/
theorem sound_step [DecidableEq κ] [Inhabited κ] {t : State ρ κ} {event : Event ρ κ}
    (sound : Sound config s) (guarded : Guard config s event)
    (moved : step config s event = some t) :
    Sound config t ∧ Progress config s t (event.owner s) := by
  cases event with
  | read request rbufLen ready =>
    cases moved
    apply sound.read
    split
    · rename_i able
      exact .inl ⟨rfl, able.2⟩
    · exact .inr rfl
  | send request found =>
    cases moved
    exact sound.begin none request found nofun
  | attempt reader found =>
    obtain ⟨attempting, moved⟩ := Option.ite_none_right_eq_some.mp moved
    cases moved
    apply sound.begin
    intro maker mine
    cases mine
    exact attempting
  | key call value =>
    obtain ⟨begun, moved⟩ := Option.ite_none_right_eq_some.mp moved
    cases moved
    exact sound.key begun value
  | append call node =>
    cases node with
    | none =>
      obtain ⟨keyed, moved⟩ := Option.ite_none_right_eq_some.mp moved
      cases moved
      exact sound.append_none keyed
    | some node =>
      obtain ⟨allowed, moved⟩ := Option.ite_none_right_eq_some.mp moved
      cases moved
      exact sound.append_some allowed.1 allowed.2.2
  | sent call ok =>
    obtain ⟨appended, moved⟩ := Option.ite_none_right_eq_some.mp moved
    cases ok with
    | true =>
      cases moved
      exact sound.sent_true appended
    | false =>
      cases moved
      exact sound.sent_false appended
  | remove call during =>
    obtain ⟨failed, moved⟩ := Option.ite_none_right_eq_some.mp moved
    cases moved
    obtain ⟨place, rfl⟩ := guarded
    exact sound.remove failed place
  | release call =>
    obtain ⟨releasing, moved⟩ := Option.ite_none_right_eq_some.mp moved
    cases moved
    exact sound.release releasing
  | response reply given =>
    simp only [step] at moved
    split at moved
    · cases moved
      exact ⟨sound, .refl rfl rfl⟩
    · rename_i looked
      cases moved
      unfold State.response
      split
      · exact ⟨sound, .refl rfl rfl⟩
      · rename_i call found
        have long : config.minLen ≤ reply.len :=
          Nat.le_of_not_lt fun short => looked (.inr short)
        obtain ⟨rfl, suits⟩ := guarded long call found
        obtain ⟨kept, progress⟩ := sound.match (mem_of_find?_eq_some found) suits
        exact ⟨kept, progress.weaken⟩
  | callback call =>
    simp only [step] at moved
    split at moved
    · rename_i reply matched
      cases moved
      exact sound.callback matched
    · cases moved
  | expire call given =>
    obtain ⟨member, moved⟩ := Option.ite_none_right_eq_some.mp moved
    cases moved
    obtain rfl := guarded
    exact sound.expire member
  | get reader =>
    simp only [step] at moved
    split at moved
    · rename_i call event waiting queue
      cases moved
      exact sound.get waiting queue
    · cases moved

/-- A read has returned. -/
def Returned (reader : Nat) (s : State ρ κ) : Prop :=
  ∃ length, (s.readers reader).pc = .returned length

/-- A reader that has begun and not returned has a step that can be taken. -/
theorem Sound.able [DecidableEq κ] [Inhabited κ] (sound : Sound config s) {reader : Nat}
    (present : (s.readers reader).pc ≠ .absent) (running : ¬ Returned reader s) :
    ∃ event, event.owner s = some reader ∧ step config s event ≠ none := by
  have calling : ∀ call, (s.readers reader).pc.call = some call →
      ∃ event, event.owner s = some reader ∧ step config s event ≠ none := by
    intro call current
    obtain ⟨mine, serves⟩ := sound.served.current current
    cases pc : (s.calls call).pc with
    | absent => simp only [Serves, pc] at serves
    | begun => exact ⟨.key call default, mine, by simp [step, pc]⟩
    | keyed => exact ⟨.append call none, mine, by simp [step, pc]⟩
    | appended => exact ⟨.sent call true, mine, by simp [step, pc]⟩
    | sendFailed => exact ⟨.remove call false, mine, by simp [step, pc]⟩
    | releasing => exact ⟨.release call, mine, by simp [step, pc]⟩
    | ended sent =>
      cases sent with
      | false => simp only [Serves, pc] at serves
      | true =>
        simp only [Serves, pc] at serves
        obtain ⟨waiting, awaits⟩ := serves
        cases place : (s.calls call).place with
        | listed =>
          have member := (sound.listed.mem call).mpr place
          exact ⟨.expire call true, mine, by simp [step, member]⟩
        | matched reply => exact ⟨.callback call, mine, by simp [step, place]⟩
        | gone =>
          rw [place] at awaits
          obtain ⟨event, queue, _⟩ := awaits
          exact ⟨.get reader, rfl, by simp [step, waiting, queue]⟩
        | unlisted | lost =>
          rw [place] at awaits
          exact awaits.elim
  cases pc : (s.readers reader).pc with
  | absent => exact absurd pc present
  | attempting => exact ⟨.attempt reader true, rfl, by simp [step, pc]⟩
  | sending call | waiting call => exact calling call (by rw [pc]; rfl)
  | returned length => exact absurd ⟨length, pc⟩ running

/-- Requests are completed and freed once, and reads get what belongs to them. -/
structure Settles (config : Config) (s : State ρ κ) : Prop where
  unlocked : s.stuck = false
  alone : s.raced = false
  once : ∀ call, (s.calls call).completions ≤ 1 ∧ (s.calls call).frees ≤ 1 ∧
    ((s.calls call).place.pending = true →
      (s.calls call).completions = 0 ∧ (s.calls call).frees = 0)
  closed : ∀ call, (s.calls call).Over → (s.calls call).completions = 1 ∧
    ((s.calls call).place = .unlisted ∨ (s.calls call).frees = 1)
  lengths : ∀ entry ∈ s.lengths, entry.2 + config.header = entry.1
  own : ∀ entry ∈ s.taken, entry.event.call = entry.waited ∧
    (entry.event.success = true → entry.payload = some entry.waited)
  detached : ∀ reader call, Returned reader s → (s.calls call).reader = some reader →
    (s.calls call).place.pending = false

theorem Call.Counted.le_one {value : Call ρ κ} (counted : value.Counted) :
    value.completions ≤ 1 ∧ value.frees ≤ 1 := by
  unfold Call.Counted at counted
  split at counted <;> omega

theorem Call.Counted.of_over {value : Call ρ κ} (counted : value.Counted) (closed : value.Over) :
    value.completions = 1 ∧ (value.place = .unlisted ∨ value.frees = 1) := by
  obtain ⟨⟨sent, ended⟩, idle⟩ := closed
  cases sent with
  | true =>
    simp only [Call.Counted, ended, idle] at counted
    rcases counted with ⟨pending, _⟩ | ⟨_, completed, freed⟩
    · cases pending
    · exact ⟨completed, .inr freed⟩
  | false =>
    simp only [Call.Counted, ended] at counted
    exact ⟨counted.1, counted.2.imp And.left And.right⟩

theorem Sound.settles (sound : Sound config s) : Settles config s where
  unlocked := sound.running
  alone := sound.alone
  once := by
    intro call
    obtain ⟨completed, freed⟩ := (sound.counted call).le_one
    exact ⟨completed, freed, fun pending => ((sound.counted call).of_pending pending).2⟩
  closed := fun call => (sound.counted call).of_over
  lengths := sound.lengths
  own := sound.taken
  detached := by
    rintro reader call ⟨length, returned⟩ mine
    have joint := sound.served.joint reader call mine
    have left : (ReadPc.returned length).call ≠ some call := nofun
    rw [Joint, returned, if_neg left] at joint
    exact joint.2

end Steps

end OpenBic.Mctp.Pending
