import OpenBic.Pldm.InstanceId

/-!
# `mctp_pldm_read` gets the answer to its own request, and returns

A request that left the list by a response or a timeout has signalled its waiter, once, or its
response handler is just about to run. The event a reader gets is about the request of that
attempt, nothing pending refers to a reader that has returned, and every fair run returns from
every read. This needs that no response is a bare header, and that a failed send is reported
only for a request that is still listed and stays so until the error path has removed it.
-/

namespace OpenBic.Pldm

open List Option Function Library.Machine Library.Holders

def ReadPc.call : ReadPc → Option Nat
  | .sending call | .waiting call => some call
  | _ => none

/-- The condition on a step: that of the instance ids; a reader's request is neither answered
by a bare header nor reported as failed once it is off the list, nor completed after that report. -/
def ReadGuard (s : Requests) : ReqEvent → Prop
  | .sent call false => (s.calls call).reader ≠ none → call ∈ s.listed
  | .response inst instId pldmType cmd len =>
    ∀ call ∈ s.listed.find? (s.answers inst instId pldmType cmd), (s.calls call).reader ≠ none →
      (s.calls call).pc ≠ .sendFailed ∧ (len + 2 ^ 16 - pldmHdrSize) % 2 ^ 16 ≠ 0
  | .expire call => (s.calls call).reader ≠ none → (s.calls call).pc ≠ .sendFailed
  | event => IdGuard s event

instance ReadGuard.decidable (s : Requests) : (event : ReqEvent) → Decidable (ReadGuard s event)
  | .sent _ false | .expire _ => inferInstanceAs (Decidable (_ → _))
  | .sent _ true => .isTrue trivial
  | .response .. => inferInstanceAs (Decidable (∀ call ∈ _, _))
  | .send inst pldmType cmd => IdGuard.decidable s (.send inst pldmType cmd)
  | .read inst pldmType cmd rbufLen mallocOk =>
    IdGuard.decidable s (.read inst pldmType cmd rbufLen mallocOk)
  | .attempt reader => IdGuard.decidable s (.attempt reader)
  | .claim call => IdGuard.decidable s (.claim call)
  | .append call node => IdGuard.decidable s (.append call node)
  | .remove call => IdGuard.decidable s (.remove call)
  | .release call => IdGuard.decidable s (.release call)
  | .callback call => IdGuard.decidable s (.callback call)
  | .get reader => IdGuard.decidable s (.get reader)
  | .undo inst instId => IdGuard.decidable s (.undo inst instId)

/-- How far the answer to a reader's request has come. -/
inductive AnswerStage where
  | listed
  | matched
  | queued

/-- The answer to a reader's request has come so far, and no further. -/
def Requests.Answering (s : Requests) (reader call : Nat) : AnswerStage → Prop
  | .listed => call ∈ s.listed ∧ s.inFlight call = none ∧ (s.readers reader).queue = none
  | .matched =>
    call ∉ s.listed ∧ (∃ rlen, s.inFlight call = some rlen ∧ rlen ≠ 0) ∧
      (s.readers reader).queue = none
  | .queued =>
    call ∉ s.listed ∧ s.inFlight call = none ∧
      ∃ success, (s.readers reader).queue = some ⟨call, success⟩

/-- Nothing has been asked yet, or the request is off the list again unanswered. -/
def Requests.Quiet (s : Requests) (reader call : Nat) : Prop :=
  call ∉ s.listed ∧ s.inFlight call = none ∧ (s.readers reader).queue = none

/-- A call is over, its request gone and its answer, too. -/
def Requests.Over (s : Requests) (call : Nat) : Prop :=
  (∃ sent, (s.calls call).pc = .ended sent) ∧ call ∉ s.listed ∧ s.inFlight call = none

/-- A call is its reader's, by how far it is. -/
def Requests.Serves (s : Requests) (reader call : Nat) : Prop :=
  match (s.calls call).pc with
  | .scanned | .claimed => (s.readers reader).pc = .sending call ∧ s.Quiet reader call
  | .appended =>
    (s.readers reader).pc = .sending call ∧ ∃ answer, s.Answering reader call answer
  | .sendFailed => (s.readers reader).pc = .sending call ∧ s.Answering reader call .listed
  | .releasing own => own = true ∧ (s.readers reader).pc = .sending call ∧ s.Quiet reader call
  | .ended true =>
    (s.readers reader).pc = .waiting call ∧ ∃ answer, s.Answering reader call answer
  | .absent | .ended false => False

/-- A reader between two attempts. -/
def Reader.Resting (reader : Reader) : Prop :=
  reader.pc ≠ .absent ∧ reader.queue = none ∧
    (reader.pc = .attempting → reader.attempts < reader.maxRetry)

/-- What holds of the readers in every state. -/
structure Served (s : Requests) : Prop where
  current : ∀ reader call, (s.readers reader).pc.call = some call →
    (s.calls call).reader = some reader ∧ s.Serves reader call
  settled : ∀ reader call, (s.calls call).reader = some reader →
    (s.readers reader).pc.call ≠ some call → s.Over call
  resting : ∀ reader, (s.readers reader).pc.call = none → (s.readers reader).pc ≠ .absent →
    (s.readers reader).Resting
  counted : ∀ reader, (s.readers reader).attempts ≤ (s.readers reader).maxRetry
  begun : ∀ reader call, (s.calls call).reader = some reader → reader < s.nextReader
  fresh : ∀ reader, s.nextReader ≤ reader → (s.readers reader).pc = .absent

theorem served_start : Served Requests.start where
  current := nofun
  settled := nofun
  resting := fun _ _ present => absurd rfl present
  counted := fun _ => le_rfl
  begun := nofun
  fresh := fun _ _ => rfl

def CallPc.left : CallPc → Nat
  | .scanned => 10
  | .claimed => 9
  | .appended => 4
  | .sendFailed => 3
  | .releasing _ => 2
  | _ => 1

def Requests.stage (s : Requests) (call : Nat) : Nat :=
  if call ∈ s.listed then 3 else if (s.inFlight call).isSome then 2 else 1

def Requests.left (s : Requests) (reader : Nat) : Nat :=
  match (s.readers reader).pc with
  | .absent | .returned _ => 0
  | .attempting => 16 * ((s.readers reader).maxRetry - (s.readers reader).attempts)
  | .sending call | .waiting call =>
    16 * ((s.readers reader).maxRetry - (s.readers reader).attempts) +
      ((s.calls call).pc.left + s.stage call)

/-- A step changes at most one call, and at most the reader of that call. -/
structure Apart (s t : Requests) (reader : Option Nat) (call : Nat) : Prop where
  readers : ∀ other, reader ≠ some other → t.readers other = s.readers other
  calls : ∀ other, other ≠ call → t.calls other = s.calls other
  listed : ∀ other, other ≠ call → (other ∈ t.listed ↔ other ∈ s.listed)
  inFlight : ∀ other, other ≠ call → t.inFlight other = s.inFlight other
  nextReader : t.nextReader = s.nextReader
  owner : (t.calls call).reader = reader
  known : (s.calls call).reader = reader ∨ (s.calls call).pc = .absent

section Frames

variable {s t : Requests} {owner : Option Nat} {call : Nat}

theorem Apart.serves (apart : Apart s t owner call) {reader other : Nat}
    (elsewhere : owner ≠ some reader) (different : other ≠ call) :
    t.Serves reader other ↔ s.Serves reader other := by
  simp only [Requests.Serves, Requests.Answering, Requests.Quiet, apart.calls other different,
    apart.listed other different, apart.inFlight other different, apart.readers reader elsewhere]

theorem Apart.settled (apart : Apart s t owner call) {other : Nat} (different : other ≠ call) :
    t.Over other ↔ s.Over other := by
  simp only [Requests.Over, apart.calls other different, apart.listed other different,
    apart.inFlight other different]

variable {reader : Nat}

theorem Apart.not_current (apart : Apart s t owner call) (served : Served s)
    (elsewhere : owner ≠ some reader) : (s.readers reader).pc.call ≠ some call := by
  intro current
  obtain ⟨owned, serves⟩ := served.current reader call current
  rcases apart.known with known | absent
  · exact elsewhere (known.symm.trans owned)
  · simp only [Requests.Serves, absent] at serves

theorem Apart.left_eq (apart : Apart s t owner call) (served : Served s)
    (elsewhere : owner ≠ some reader) : t.left reader = s.left reader := by
  have foreign := apart.not_current served elsewhere
  have same := apart.readers reader elsewhere
  unfold Requests.left
  rw [same]
  split
  · rfl
  · rfl
  · rfl
  all_goals
    rename_i other pc
    have different : other ≠ call := by
      rintro rfl
      exact foreign (by rw [pc]; rfl)
    simp only [Requests.stage, apart.calls other different, apart.listed other different,
      apart.inFlight other different]

/-- A step on a call that no reader makes leaves the readers served. -/
theorem Served.aside (served : Served s) (apart : Apart s t none call) : Served t where
  current := by
    intro reader other current
    rw [apart.readers reader (by simp)] at current
    obtain ⟨owned, serves⟩ := served.current reader other current
    have different : other ≠ call := by
      rintro rfl
      exact apart.not_current served (by simp) current
    rw [apart.calls other different]
    exact ⟨owned, (apart.serves (by simp) different).mpr serves⟩
  settled := by
    intro reader other owned gone
    have different : other ≠ call := by
      rintro rfl
      rw [apart.owner] at owned
      cases owned
    rw [apart.calls other different] at owned
    rw [apart.readers reader (by simp)] at gone
    exact (apart.settled different).mpr (served.settled reader other owned gone)
  resting := by
    intro reader rests present
    rw [apart.readers reader (by simp)] at rests present ⊢
    exact served.resting reader rests present
  counted := by
    intro reader
    rw [apart.readers reader (by simp)]
    exact served.counted reader
  begun := by
    intro reader other owned
    have different : other ≠ call := by
      rintro rfl
      rw [apart.owner] at owned
      cases owned
    rw [apart.calls other different] at owned
    rw [apart.nextReader]
    exact served.begun reader other owned
  fresh := by
    intro reader later
    rw [apart.nextReader] at later
    rw [apart.readers reader (by simp)]
    exact served.fresh reader later

/-- What a step on a call does to the reader that makes it. -/
structure Advance (s t : Requests) (reader call : Nat) : Prop where
  before : ∀ other, (s.readers reader).pc.call = some other → other = call
  present : (s.readers reader).pc ≠ .absent
  after : (t.readers reader).pc.call = some call ∧ t.Serves reader call ∨
    (t.readers reader).pc.call = none ∧ t.Over call ∧ (t.readers reader).Resting
  counted : (t.readers reader).attempts ≤ (t.readers reader).maxRetry
  less : t.left reader < s.left reader

/-- A step on a call of a reader leaves the readers served, when it does so for that one. -/
theorem Served.advance (served : Served s) (apart : Apart s t (some reader) call)
    (advance : Advance s t reader call) : Served t where
  current := by
    intro asked other current
    by_cases own : asked = reader
    · subst own
      rcases advance.after with ⟨here, serves⟩ | ⟨none, _⟩
      · cases here.symm.trans current
        exact ⟨apart.owner, serves⟩
      · rw [none] at current
        cases current
    · have elsewhere : some reader ≠ some asked := fun same => own (Option.some.inj same).symm
      rw [apart.readers asked elsewhere] at current
      obtain ⟨owned, serves⟩ := served.current asked other current
      have different : other ≠ call := by
        rintro rfl
        exact apart.not_current served elsewhere current
      rw [apart.calls other different]
      exact ⟨owned, (apart.serves elsewhere different).mpr serves⟩
  settled := by
    intro asked other owned gone
    by_cases mine : other = call
    · subst mine
      cases apart.owner.symm.trans owned
      rcases advance.after with ⟨here, _⟩ | ⟨_, settled, _⟩
      · exact absurd here gone
      · exact settled
    · rw [apart.calls other mine] at owned
      refine (apart.settled mine).mpr (served.settled asked other owned fun current => ?_)
      by_cases own : asked = reader
      · subst own
        exact mine (advance.before other current)
      · rw [apart.readers asked fun same => own (Option.some.inj same).symm] at gone
        exact gone current
  resting := by
    intro asked rests present
    by_cases own : asked = reader
    · subst own
      rcases advance.after with ⟨here, _⟩ | ⟨_, _, resting⟩
      · rw [here] at rests
        cases rests
      · exact resting
    · rw [apart.readers asked fun same => own (Option.some.inj same).symm] at rests present ⊢
      exact served.resting asked rests present
  counted := by
    intro asked
    by_cases own : asked = reader
    · subst own
      exact advance.counted
    · rw [apart.readers asked fun same => own (Option.some.inj same).symm]
      exact served.counted asked
  begun := by
    intro asked other owned
    rw [apart.nextReader]
    by_cases mine : other = call
    · subst mine
      cases apart.owner.symm.trans owned
      by_contra beyond
      exact advance.present (served.fresh reader (Nat.not_lt.mp beyond))
    · rw [apart.calls other mine] at owned
      exact served.begun asked other owned
  fresh := by
    intro asked later
    rw [apart.nextReader] at later
    have own : asked ≠ reader := by
      rintro rfl
      exact advance.present (served.fresh asked later)
    rw [apart.readers asked fun same => own (Option.some.inj same).symm]
    exact served.fresh asked later

theorem Served.current_of_live (served : Served s)
    (owned : (s.calls call).reader = some reader) (live : ¬ s.Over call) :
    (s.readers reader).pc.call = some call ∧ s.Serves reader call := by
  have current : (s.readers reader).pc.call = some call := by
    by_contra elsewhere
    exact live (served.settled reader call owned elsewhere)
  exact ⟨current, (served.current reader call current).2⟩

theorem ReadPc.ne_absent_of_call {pc : ReadPc} (current : pc.call = some call) : pc ≠ .absent := by
  rintro rfl
  cases current

/-- A step on one call: nothing else changes, and its reader, if it has one, advances. -/
def Moves (s t : Requests) (call : Nat) : Prop :=
  ∃ owner, Apart s t owner call ∧ ∀ reader, owner = some reader → Advance s t reader call

theorem Served.moves (served : Served s) (moves : Moves s t call) :
    Served t ∧ ∀ reader, (s.readers reader).pc ≠ .absent → (t.readers reader).pc ≠ .absent ∧
      t.left reader ≤ s.left reader ∧
      ((t.calls call).reader = some reader → t.left reader < s.left reader) := by
  obtain ⟨owner, apart, advance⟩ := moves
  constructor
  · cases owner with
    | none => exact served.aside apart
    | some reader => exact served.advance apart (advance reader rfl)
  · intro reader present
    rw [apart.owner]
    by_cases own : owner = some reader
    · have less := (advance reader own).less
      refine ⟨?_, Nat.le_of_lt less, fun _ => less⟩
      rcases (advance reader own).after with ⟨here, _⟩ | ⟨_, _, resting⟩
      · exact ReadPc.ne_absent_of_call here
      · exact resting.1
    · rw [apart.readers reader own]
      exact ⟨present, Nat.le_of_eq (apart.left_eq served own), fun same => absurd same own⟩

theorem Requests.left_of_call (current : (s.readers reader).pc.call = some call) :
    s.left reader = 16 * ((s.readers reader).maxRetry - (s.readers reader).attempts) +
      ((s.calls call).pc.left + s.stage call) := by
  unfold Requests.left
  cases pc : (s.readers reader).pc with
  | sending other =>
    rw [pc] at current
    cases current
    rfl
  | waiting other =>
    rw [pc] at current
    cases current
    rfl
  | absent | attempting | returned =>
    rw [pc] at current
    cases current

theorem Requests.left_le (none : (s.readers reader).pc.call = none) :
    s.left reader ≤ 16 * ((s.readers reader).maxRetry - (s.readers reader).attempts) := by
  unfold Requests.left
  cases pc : (s.readers reader).pc with
  | sending other | waiting other =>
    rw [pc] at none
    cases none
  | absent | returned => exact Nat.zero_le _
  | attempting => exact le_rfl

theorem Advance.stay (served : Served s) (current : (s.readers reader).pc.call = some call)
    (here : (t.readers reader).pc.call = some call) (serves : t.Serves reader call)
    (limits : (t.readers reader).attempts = (s.readers reader).attempts ∧
      (t.readers reader).maxRetry = (s.readers reader).maxRetry)
    (less : (t.calls call).pc.left + t.stage call < (s.calls call).pc.left + s.stage call) :
    Advance s t reader call where
  before := fun _ other => Option.some.inj (other.symm.trans current)
  present := ReadPc.ne_absent_of_call current
  after := .inl ⟨here, serves⟩
  counted := by
    rw [limits.1, limits.2]
    exact served.counted reader
  less := by
    rw [Requests.left_of_call current, Requests.left_of_call here, limits.1, limits.2]
    exact Nat.add_lt_add_left less _

theorem Advance.leave (served : Served s)
    (current : (s.readers reader).pc.call = some call) (settled : t.Over call)
    (none : (t.readers reader).pc.call = none) (resting : (t.readers reader).Resting)
    (limits : (t.readers reader).attempts = (s.readers reader).attempts ∧
      (t.readers reader).maxRetry = (s.readers reader).maxRetry) : Advance s t reader call where
  before := fun _ other => Option.some.inj (other.symm.trans current)
  present := ReadPc.ne_absent_of_call current
  after := .inr ⟨none, settled, resting⟩
  counted := by
    rw [limits.1, limits.2]
    exact served.counted reader
  less := by
    have rest := Requests.left_le none
    rw [limits.1, limits.2] at rest
    have step : 0 < s.stage call := by
      unfold Requests.stage
      split
      · decide
      · split <;> decide
    rw [Requests.left_of_call current]
    omega

end Frames

section Events

variable {s : Requests} {call : Nat}

theorem not_over_of_pc {pc : CallPc} (at_ : (s.calls call).pc = pc)
    (live : ∀ sent, pc ≠ .ended sent) : ¬ s.Over call := by
  rintro ⟨⟨sent, ended⟩, _⟩
  exact live sent (at_.symm.trans ended)

theorem Requests.Answering.congr {s t : Requests} {reader call : Nat} {answer : AnswerStage}
    (answering : s.Answering reader call answer) (listed : call ∈ t.listed ↔ call ∈ s.listed)
    (inFlight : t.inFlight call = s.inFlight call)
    (queue : (t.readers reader).queue = (s.readers reader).queue) :
    t.Answering reader call answer := by
  cases answer with
  | listed | matched | queued =>
    simp only [Requests.Answering, listed, inFlight, queue] at answering ⊢
    exact answering

variable {reader : Nat}

theorem Requests.Answering.listed_of_mem {answer : AnswerStage}
    (answering : s.Answering reader call answer) (member : call ∈ s.listed) :
    s.Answering reader call .listed := by
  cases answer with
  | listed => exact answering
  | matched | queued => exact absurd member answering.1

theorem Requests.Serves.pending (serves : s.Serves reader call)
    (pending : call ∈ s.listed ∨ s.inFlight call ≠ none)
    (unreported : (s.calls call).pc ≠ .sendFailed) :
    ((s.calls call).pc = .appended ∨ (s.calls call).pc = .ended true) ∧
      ∃ answer, s.Answering reader call answer := by
  have loud : ¬ s.Quiet reader call := fun quiet =>
    pending.elim quiet.1 (fun matched => matched quiet.2.1)
  unfold Requests.Serves at serves
  split at serves
  · exact absurd serves.2 loud
  · exact absurd serves.2 loud
  · rename_i appended
    exact ⟨.inl appended, serves.2⟩
  · rename_i failed
    exact absurd failed unreported
  · exact absurd serves.2.2 loud
  · rename_i ended
    exact ⟨.inr ended, serves.2⟩
  · exact serves.elim
  · exact serves.elim

theorem Requests.Serves.answered {t : Requests} (serves : s.Serves reader call)
    (standing : (s.calls call).pc = .appended ∨ (s.calls call).pc = .ended true)
    (calls : t.calls call = s.calls call) (pc : (t.readers reader).pc = (s.readers reader).pc)
    (answering : ∃ answer, t.Answering reader call answer) : t.Serves reader call := by
  unfold Requests.Serves at serves ⊢
  rw [calls]
  rcases standing with appended | ended
  · rw [appended] at serves ⊢
    exact ⟨pc.trans serves.1, answering⟩
  · rw [ended] at serves ⊢
    exact ⟨pc.trans serves.1, answering⟩

theorem apart_goto (pc : CallPc) :
    Apart s { s with toIds := s.goto call pc } (s.calls call).reader call where
  readers := fun _ _ => rfl
  calls := fun _ different => s.goto_calls_of_ne pc different
  listed := fun _ _ => Iff.rfl
  inFlight := fun _ _ => rfl
  nextReader := rfl
  owner := by rw [s.goto_calls_self]
  known := .inl rfl

theorem moves_claim (served : Served s) (scanned : (s.calls call).pc = .scanned) :
    Moves s { s with toIds := s.claim call } call := by
  refine ⟨(s.calls call).reader, ⟨fun _ _ => rfl, fun _ different =>
      update_of_ne different ..,
    fun _ _ => Iff.rfl, fun _ _ => rfl, rfl, by simp [Ids.claim], .inl rfl⟩, ?_⟩
  intro reader mine
  obtain ⟨current, serves⟩ := served.current_of_live mine (not_over_of_pc scanned (by simp))
  simp only [Requests.Serves, scanned] at serves
  apply Advance.stay served current
  · exact current
  · simp only [Requests.Serves, Ids.claim, update_self]
    exact serves
  · exact ⟨rfl, rfl⟩
  · apply Nat.add_lt_add_right
    simp [Ids.claim, scanned, CallPc.left]

theorem moves_append (served : Served s) (owned : Owned s.toIds)
    (claimed : (s.calls call).pc = .claimed) (node : Option Nat) :
    Moves s { s with toIds := s.append call node } call := by
  have unlisted : call ∉ s.listed := fun member => (owned.listed_pc member).1 claimed
  have serves_of : ∀ reader, (s.calls call).reader = some reader →
      (s.readers reader).pc.call = some call ∧ (s.readers reader).pc = .sending call ∧
        s.Quiet reader call := by
    intro reader mine
    obtain ⟨current, serves⟩ := served.current_of_live mine (not_over_of_pc claimed (by simp))
    simp only [Requests.Serves, claimed] at serves
    exact ⟨current, serves⟩
  cases node with
  | none =>
    refine ⟨(s.calls call).reader, apart_goto (.releasing true), ?_⟩
    intro reader mine
    obtain ⟨current, sending, quiet⟩ := serves_of reader mine
    apply Advance.stay served current
    · exact current
    · simp only [Requests.Serves, Ids.append, s.goto_calls_self]
      exact ⟨trivial, sending, quiet⟩
    · exact ⟨rfl, rfl⟩
    · apply Nat.add_lt_add_right
      simp [Ids.append, Ids.goto, claimed, CallPc.left]
  | some node =>
    refine ⟨(s.calls call).reader, ⟨fun _ _ => rfl,
      fun _ different => update_of_ne different ..,
      fun _ different => by simp [Ids.append, different],
      fun _ _ => rfl, rfl, by simp [Ids.append], .inl rfl⟩, ?_⟩
    intro reader mine
    obtain ⟨current, sending, quiet⟩ := serves_of reader mine
    apply Advance.stay served current
    · exact current
    · simp only [Requests.Serves, Ids.append, update_self]
      exact ⟨sending, .listed, by simp, quiet.2.1, quiet.2.2⟩
    · exact ⟨rfl, rfl⟩
    · simp [Ids.append, claimed, CallPc.left, Requests.stage, unlisted, quiet.2.1]

theorem tellReader_readers (mine : (s.calls call).reader = some reader)
    (sent : Bool) : (s.tellReader call sent).readers reader =
      if sent then { s.readers reader with pc := .waiting call } else (s.readers reader).retry := by
  unfold Requests.tellReader
  rw [mine]
  cases sent with
  | true => exact update_self ..
  | false => exact update_self ..

theorem tellReader_readers_of_ne (foreign : (s.calls call).reader ≠ some reader)
    (sent : Bool) : (s.tellReader call sent).readers reader = s.readers reader := by
  unfold Requests.tellReader
  split
  · rfl
  · rename_i owner mine
    have different : reader ≠ owner := by
      rintro rfl
      exact foreign mine
    split
    · exact update_of_ne different ..
    · exact update_of_ne different ..

@[simp]
theorem tellReader_nextReader (sent : Bool) :
    (s.tellReader call sent).nextReader = s.nextReader := by
  unfold Requests.tellReader
  split
  · rfl
  · split <;> rfl

theorem Reader.retry_resting {reader : Reader} (empty : reader.queue = none) :
    reader.retry.pc.call = none ∧ reader.retry.Resting ∧
      reader.retry.attempts = reader.attempts ∧ reader.retry.maxRetry = reader.maxRetry := by
  unfold Reader.retry
  split
  · rename_i more
    exact ⟨rfl, ⟨ReadPc.noConfusion, empty, fun _ => more⟩, rfl, rfl⟩
  · exact ⟨rfl, ⟨ReadPc.noConfusion, empty, nofun⟩, rfl, rfl⟩

theorem apart_return (sent : Bool) :
    Apart s (s.return call sent) (s.calls call).reader call where
  readers := by
    intro other elsewhere
    rw [Requests.return, tellReader_readers_of_ne]
    rw [s.goto_calls_self]
    exact elsewhere
  calls := fun _ different => by
    rw [Requests.return_toIds]
    exact s.goto_calls_of_ne _ different
  listed := fun _ _ => by rw [Requests.return_toIds]; rfl
  inFlight := fun _ _ => by rw [Requests.return_toSignals]
  nextReader := by rw [Requests.return, tellReader_nextReader]
  owner := by rw [Requests.return_toIds, s.goto_calls_self]
  known := .inl rfl

theorem moves_sent (served : Served s) (appended : (s.calls call).pc = .appended) (ok : Bool)
    (guarded : ok = false → (s.calls call).reader ≠ none → call ∈ s.listed) :
    Moves s (if ok then s.return call true else { s with toIds := s.goto call .sendFailed })
      call := by
  have serves_of : ∀ reader, (s.calls call).reader = some reader →
      (s.readers reader).pc.call = some call ∧ (s.readers reader).pc = .sending call ∧
        ∃ answer, s.Answering reader call answer := by
    intro reader mine
    obtain ⟨current, serves⟩ := served.current_of_live mine (not_over_of_pc appended (by simp))
    simp only [Requests.Serves, appended] at serves
    exact ⟨current, serves⟩
  cases ok with
  | true =>
    refine ⟨(s.calls call).reader, apart_return true, ?_⟩
    intro reader mine
    obtain ⟨current, sending, answer, answering⟩ := serves_of reader mine
    have told : (s.return call true).readers reader =
        { s.readers reader with pc := .waiting call } := by
      rw [Requests.return, tellReader_readers]
      · rfl
      · rw [s.goto_calls_self]
        exact mine
    simp only [if_true]
    apply Advance.stay served current
    · rw [told]
      rfl
    · simp only [Requests.Serves, Requests.return_toIds, s.goto_calls_self]
      rw [told]
      refine ⟨rfl, answer, answering.congr ?_ ?_ ?_⟩
      · rw [Requests.return_toIds]
        rfl
      · rw [Requests.return_toSignals]
      · rw [told]
    · rw [told]
      exact ⟨rfl, rfl⟩
    · have stage : (s.return call true).stage call = s.stage call := by
        unfold Requests.stage
        rw [Requests.return_toIds, Requests.return_toSignals]
        rfl
      rw [stage, Requests.return_toIds, s.goto_calls_self, appended]
      exact Nat.add_lt_add_right (by simp [CallPc.left]) _
  | false =>
    refine ⟨(s.calls call).reader, apart_goto .sendFailed, ?_⟩
    intro reader mine
    obtain ⟨current, sending, answer, answering⟩ := serves_of reader mine
    have member : call ∈ s.listed := guarded rfl (by rw [mine]; exact some_ne_none reader)
    apply Advance.stay served current
    · exact current
    · simp only [Bool.false_eq_true, if_false, Requests.Serves, s.goto_calls_self]
      exact ⟨sending, answering.listed_of_mem member⟩
    · exact ⟨rfl, rfl⟩
    · apply Nat.add_lt_add_right
      simp [s.goto_calls_self, appended, CallPc.left]

/-- The error path looks its request up; that of a reader's call finds it. -/
theorem moves_remove (served : Served s) (owned : Owned s.toIds)
    (failed : (s.calls call).pc = .sendFailed)
    (guarded : ∀ other ∈ s.listed, (s.calls other).node = (s.calls call).node → other = call) :
    Moves s { s with toIds := s.remove call } call := by
  have elsewhere : ∀ other, other ≠ call → (s.remove call).calls other = s.calls other := by
    intro other different
    unfold Ids.remove
    split
    · exact s.goto_calls_of_ne _ different
    · exact s.goto_calls_of_ne _ different
  have found : call ∈ s.listed →
      s.listed.find? (fun other => (s.calls other).node == (s.calls call).node) = some call := by
    intro member
    cases looked : s.listed.find? fun other => (s.calls other).node == (s.calls call).node with
    | none =>
      have differs := List.find?_eq_none.mp looked call member
      simp at differs
    | some other =>
      have node := find?_some looked
      rw [guarded other (mem_of_find?_eq_some looked) (by simpa using node)]
  have missed : call ∉ s.listed →
      s.listed.find? (fun other => (s.calls other).node == (s.calls call).node) = none := by
    intro unlisted
    rw [find?_eq_none]
    intro other member same
    exact unlisted (guarded other member (by simpa using same) ▸ member)
  have left : ∀ other, other ≠ call → (other ∈ (s.remove call).listed ↔ other ∈ s.listed) := by
    intro other different
    unfold Ids.remove
    by_cases member : call ∈ s.listed
    · rw [found member]
      show other ∈ s.listed.erase call ↔ _
      simp [different]
    · rw [missed member]
      exact Iff.rfl
  have owner : ((s.remove call).calls call).reader = (s.calls call).reader := by
    unfold Ids.remove
    split
    · simp [Ids.free, s.goto_calls_self]
    · simp [s.goto_calls_self]
  refine ⟨(s.calls call).reader, ⟨fun _ _ => rfl, elsewhere, left, fun _ _ => rfl, rfl, owner,
    .inl rfl⟩, ?_⟩
  intro reader mine
  obtain ⟨current, serves⟩ := served.current_of_live mine (not_over_of_pc failed (by simp))
  simp only [Requests.Serves, failed] at serves
  obtain ⟨sending, member, matched, empty⟩ := serves
  have removed : s.remove call =
      { s.goto call (.releasing true) with listed := s.listed.erase call }.free call := by
    unfold Ids.remove
    rw [found member]
  have unlisted : call ∉ s.listed.erase call :=
    fun left => ((owned.listed_nodup.mem_erase_iff).mp left).1 rfl
  rw [removed]
  apply Advance.stay served current
  · exact current
  · simp only [Requests.Serves, Ids.free, s.goto_calls_self]
    exact ⟨trivial, sending, unlisted, matched, empty⟩
  · exact ⟨rfl, rfl⟩
  · simp [Ids.free, s.goto_calls_self, failed, CallPc.left, Requests.stage, member, matched,
      unlisted]

/-- The error path gives the id back and returns; the reader tries again, or gives up. -/
theorem moves_release (served : Served s) {own : Bool}
    (releasing : (s.calls call).pc = .releasing own) :
    Moves s ({ s with toIds := (s.unregister call).1 }.return call false) call := by
  have calls : (s.unregister call).1.calls = s.calls := by
    unfold Ids.unregister
    split <;> rfl
  have listed : (s.unregister call).1.listed = s.listed := by
    unfold Ids.unregister
    split <;> rfl
  have apart : Apart { s with toIds := (s.unregister call).1 }
      ({ s with toIds := (s.unregister call).1 }.return call false)
      ((s.unregister call).1.calls call).reader call := apart_return false
  rw [calls] at apart
  refine ⟨(s.calls call).reader, ⟨apart.readers, ?_, ?_, apart.inFlight, apart.nextReader,
    apart.owner, .inl rfl⟩, ?_⟩
  · intro other different
    rw [apart.calls other different]
    exact congrFun calls other
  · intro other different
    rw [apart.listed other different]
    exact listed ▸ Iff.rfl
  · intro reader mine
    obtain ⟨current, serves⟩ := served.current_of_live mine (not_over_of_pc releasing (by simp))
    simp only [Requests.Serves, releasing] at serves
    obtain ⟨_, sending, unlisted, unmatched, empty⟩ := serves
    have told : ({ s with toIds := (s.unregister call).1 }.return call false).readers reader =
        (s.readers reader).retry := by
      rw [Requests.return, tellReader_readers]
      · rfl
      · rw [Ids.goto_calls_self]
        show ((s.unregister call).1.calls call).reader = some reader
        rw [calls]
        exact mine
    obtain ⟨none, resting, limits⟩ := Reader.retry_resting empty
    apply Advance.leave served current
    · refine ⟨⟨false, ?_⟩, ?_, ?_⟩
      · rw [Requests.return_toIds, Ids.goto_calls_self]
      · rw [Requests.return_toIds]
        show call ∉ (s.unregister call).1.listed
        rw [listed]
        exact unlisted
      · rw [Requests.return_toSignals]
        exact unmatched
    · rw [told]
      exact none
    · rw [told]
      exact resting
    · rw [told]
      exact limits

theorem unlink_calls (ids : Ids) : (ids.unlink call).1.calls = ids.calls := by
  unfold Ids.unlink Ids.unregister
  split <;> rfl

theorem unlink_listed (ids : Ids) : (ids.unlink call).1.listed = ids.listed.erase call := by
  unfold Ids.unlink Ids.unregister
  split <;> rfl

/-- A response with data is matched to a request. -/
theorem moves_response (served : Served s) (owned : Owned s.toIds) (member : call ∈ s.listed)
    {rlen : Nat} (guarded : (s.calls call).reader ≠ none →
      (s.calls call).pc ≠ .sendFailed ∧ rlen ≠ 0) (completed : List Nat) :
    Moves s { s with
      toIds := (s.unlink call).1
      completed := completed
      inFlight := update s.inFlight call (some rlen) } call := by
  refine ⟨(s.calls call).reader, ⟨fun _ _ => rfl, ?_, ?_, fun _ different =>
    update_of_ne different .., rfl, ?_, .inl rfl⟩, ?_⟩
  · intro other _
    exact congrFun (unlink_calls s.toIds) other
  · intro other different
    show other ∈ (s.unlink call).1.listed ↔ _
    rw [unlink_listed, owned.listed_nodup.mem_erase_iff]
    simp [different]
  · show ((s.unlink call).1.calls call).reader = _
    rw [unlink_calls]
  · intro reader mine
    obtain ⟨current, serves⟩ := served.current_of_live mine fun settled => settled.2.1 member
    have allowed := guarded (by rw [mine]; exact some_ne_none reader)
    obtain ⟨standing, answer, answering⟩ := serves.pending (.inl member) allowed.1
    obtain ⟨_, _, empty⟩ := answering.listed_of_mem member
    have unlisted : call ∉ (s.unlink call).1.listed := by
      rw [unlink_listed]
      exact fun left => ((owned.listed_nodup.mem_erase_iff).mp left).1 rfl
    apply Advance.stay served current
    · exact current
    · apply serves.answered standing
      · exact congrFun (unlink_calls s.toIds) call
      · rfl
      · exact ⟨.matched, unlisted, ⟨rlen, update_self .., allowed.2⟩, empty⟩
    · exact ⟨rfl, rfl⟩
    · show ((s.unlink call).1.calls call).pc.left + _ < _
      rw [unlink_calls]
      simp [Requests.stage, unlisted, member]

theorem put_eq (empty : (s.readers reader).queue = none) (event : ReadEvent) :
    s.put reader event = { s.setReader reader { s.readers reader with queue := some event } with
      signalled := s.signalled ++ [event.call] } := by
  unfold Requests.put
  rw [empty]

theorem timeOut_none (foreign : (s.calls call).reader = none) :
    s.timeOut call = { s with signalled := s.signalled ++ [call] } := by
  unfold Requests.timeOut
  rw [foreign]

theorem timeOut_some (mine : (s.calls call).reader = some reader)
    (empty : (s.readers reader).queue = none) : s.timeOut call =
      { s.setReader reader { s.readers reader with queue := some ⟨call, false⟩ } with
        signalled := s.signalled ++ [call] } := by
  unfold Requests.timeOut
  rw [mine]
  exact put_eq empty ⟨call, false⟩

theorem handle_none (foreign : (s.calls call).reader = none) (rlen : Nat) :
    s.handle call rlen = { s with signalled := s.signalled ++ [call] } := by
  unfold Requests.handle
  rw [foreign]

theorem handle_some {reader rlen : Nat} (mine : (s.calls call).reader = some reader)
    (empty : (s.readers reader).queue = none) (data : rlen ≠ 0) :
    s.handle call rlen =
      { s.setReader reader { s.readers reader with
          returnLen := min rlen (s.readers reader).rbufLen
          queue := some ⟨call, true⟩ } with
        signalled := s.signalled ++ [call] } := by
  unfold Requests.handle Requests.put
  rw [mine]
  simp only [data, if_false, Requests.setReader, update_self, empty, update_idem]

theorem Advance.queue (served : Served s) {t : Requests} {success : Bool}
    (current : (s.readers reader).pc.call = some call) (serves : s.Serves reader call)
    (standing : (s.calls call).pc = .appended ∨ (s.calls call).pc = .ended true)
    (pending : call ∈ s.listed ∨ s.inFlight call ≠ none) (calls : t.calls call = s.calls call)
    (unlisted : call ∉ t.listed) (unmatched : t.inFlight call = none) {length : Nat}
    (queued : t.readers reader =
      { s.readers reader with returnLen := length, queue := some ⟨call, success⟩ }) :
    Advance s t reader call := by
  apply Advance.stay served current
  · rw [queued]
    exact current
  · apply serves.answered standing calls
    · rw [queued]
    · exact ⟨.queued, unlisted, unmatched, success, by rw [queued]⟩
  · rw [queued]
    exact ⟨rfl, rfl⟩
  · rw [calls]
    apply Nat.add_lt_add_left
    simp only [Requests.stage, unlisted, unmatched, if_false, isSome_none,
      Bool.false_eq_true]
    split
    · decide
    · rename_i off
      have matched := Option.isSome_iff_ne_none.mpr (pending.resolve_left off)
      simp [matched]

theorem moves_expire (served : Served s) (owned : Owned s.toIds) (member : call ∈ s.listed)
    (guarded : (s.calls call).reader ≠ none → (s.calls call).pc ≠ .sendFailed) :
    Moves s (s.expire call) call ∧ (s.expire call).toSignals = { s.toSignals with
      completed := s.completed ++ [call]
      signalled := s.signalled ++ [call] } := by
  have unlinked := (owned.unlink member).1
  unfold Requests.expire
  rw [if_pos unlinked]
  let next : Requests :=
    { s with toIds := (s.unlink call).1, completed := s.completed ++ [call] }
  show Moves s { next.timeOut call with toIds := (s.unlink call).1.free call } call ∧
    (next.timeOut call).toSignals = _
  have elsewhere : ∀ other, other ≠ call →
      (other ∈ ((s.unlink call).1.free call).listed ↔ other ∈ s.listed) := by
    intro other different
    show other ∈ (s.unlink call).1.listed ↔ _
    rw [unlink_listed, owned.listed_nodup.mem_erase_iff]
    simp [different]
  have unlisted : call ∉ (s.unlink call).1.listed := by
    rw [unlink_listed]
    exact fun left => ((owned.listed_nodup.mem_erase_iff).mp left).1 rfl
  have same : (s.unlink call).1.calls = s.calls := unlink_calls s.toIds
  cases mine : (s.calls call).reader with
  | none =>
    have nextMine : (next.calls call).reader = none :=
      (congrArg Call.reader (congrFun same call)).trans mine
    rw [timeOut_none nextMine]
    refine ⟨⟨none, ⟨fun _ _ => rfl, fun other _ => congrFun same other, elsewhere, fun _ _ => rfl,
      rfl, nextMine, .inl mine⟩, ?_⟩, rfl⟩
    intro reader impossible
    cases impossible
  | some reader =>
    obtain ⟨current, serves⟩ := served.current_of_live mine fun settled => settled.2.1 member
    have unreported := guarded (by rw [mine]; exact some_ne_none reader)
    obtain ⟨standing, answer, answering⟩ := serves.pending (.inl member) unreported
    obtain ⟨_, unmatched, empty⟩ := answering.listed_of_mem member
    have nextMine : (next.calls call).reader = some reader :=
      (congrArg Call.reader (congrFun same call)).trans mine
    have nextEmpty : (next.readers reader).queue = none := empty
    rw [timeOut_some nextMine nextEmpty]
    refine ⟨⟨some reader, ⟨?_, fun other _ => congrFun same other, elsewhere, fun _ _ => rfl, rfl,
      nextMine, .inl mine⟩, ?_⟩, rfl⟩
    · intro other different
      exact update_of_ne (fun own => different (congrArg some own).symm) ..
    · intro asked own
      cases own
      exact Advance.queue served current serves standing (.inl member) (congrFun same call)
        unlisted unmatched (update_self ..)

theorem moves_callback (served : Served s) {rlen : Nat} (matched : s.inFlight call = some rlen) :
    Moves s ({ s with
      toIds := s.free call
      inFlight := update s.inFlight call none }.handle call rlen) call ∧
    ({ s with
      toIds := s.free call
      inFlight := update s.inFlight call none }.handle call rlen).toSignals =
      { s.toSignals with
        inFlight := update s.inFlight call none
        signalled := s.signalled ++ [call] } := by
  let next : Requests := { s with
    toIds := s.free call
    inFlight := update s.inFlight call none }
  show Moves s (next.handle call rlen) call ∧ (next.handle call rlen).toSignals = _
  have inFlight : s.inFlight call ≠ none := by
    rw [matched]
    exact some_ne_none rlen
  cases mine : (s.calls call).reader with
  | none =>
    have nextMine : (next.calls call).reader = none := mine
    rw [handle_none nextMine]
    refine ⟨⟨none, ⟨fun _ _ => rfl, fun _ _ => rfl, fun _ _ => Iff.rfl,
      fun _ different => update_of_ne different .., rfl, mine, .inl mine⟩, ?_⟩, rfl⟩
    intro reader impossible
    cases impossible
  | some reader =>
    obtain ⟨current, serves⟩ := served.current_of_live mine fun settled => inFlight settled.2.2
    have unreported : (s.calls call).pc ≠ .sendFailed := by
      intro failed
      simp only [Requests.Serves, failed] at serves
      exact inFlight serves.2.2.1
    obtain ⟨standing, answer, answering⟩ := serves.pending (.inr inFlight) unreported
    have state : call ∉ s.listed ∧ rlen ≠ 0 ∧ (s.readers reader).queue = none := by
      cases answer with
      | listed => exact absurd answering.2.1 inFlight
      | queued => exact absurd answering.2.1 inFlight
      | matched =>
        obtain ⟨unlisted, ⟨length, same, data⟩, empty⟩ := answering
        cases matched.symm.trans same
        exact ⟨unlisted, data, empty⟩
    obtain ⟨unlisted, data, empty⟩ := state
    have nextMine : (next.calls call).reader = some reader := mine
    have nextEmpty : (next.readers reader).queue = none := empty
    rw [handle_some nextMine nextEmpty data]
    refine ⟨⟨some reader, ⟨?_, fun _ _ => rfl, fun _ _ => Iff.rfl,
      fun _ different => update_of_ne different .., rfl, mine, .inl mine⟩, ?_⟩, rfl⟩
    · intro other different
      exact update_of_ne (fun own => different (congrArg some own).symm) ..
    · intro asked own
      cases own
      exact Advance.queue served current serves standing (.inr inFlight) rfl unlisted
        (update_self ..) (update_self ..)

theorem moves_get (served : Served s) {event : ReadEvent}
    (waiting : (s.readers reader).pc = .waiting call)
    (queue : (s.readers reader).queue = some event) :
    event.call = call ∧ Moves s (s.get reader call event) call := by
  have current : (s.readers reader).pc.call = some call := by
    rw [waiting]
    rfl
  obtain ⟨mine, serves⟩ := served.current reader call current
  have ended : (s.calls call).pc = .ended true := by
    unfold Requests.Serves at serves
    split at serves <;> simp_all
  simp only [Requests.Serves, ended] at serves
  obtain ⟨_, answer, answering⟩ := serves
  have state : call ∉ s.listed ∧ s.inFlight call = none ∧ event.call = call := by
    cases answer with
    | listed => exact absurd (answering.2.2.symm.trans queue) (by simp)
    | matched => exact absurd (answering.2.2.symm.trans queue) (by simp)
    | queued =>
      obtain ⟨unlisted, unmatched, success, queued⟩ := answering
      cases queued.symm.trans queue
      exact ⟨unlisted, unmatched, rfl⟩
  obtain ⟨unlisted, unmatched, own⟩ := state
  refine ⟨own, some reader, ⟨?_, ?_, ?_, ?_, ?_, ?_, .inl mine⟩, ?_⟩
  · intro other different
    unfold Requests.get
    split
    · exact update_of_ne (fun own => different (congrArg some own).symm) ..
    · exact update_of_ne (fun own => different (congrArg some own).symm) ..
  · intro other _
    rw [Requests.get_toIds]
  · intro other _
    rw [Requests.get_toIds]
  · intro other _
    unfold Requests.get
    split <;> rfl
  · unfold Requests.get
    split <;> rfl
  · rw [Requests.get_toIds]
    exact mine
  · intro asked same
    cases same
    have settled : (s.get reader call event).Over call := by
      refine ⟨⟨true, ?_⟩, ?_, ?_⟩
      · rw [Requests.get_toIds]
        exact ended
      · rw [Requests.get_toIds]
        exact unlisted
      · unfold Requests.get
        split <;> exact unmatched
    cases success : event.success with
    | true =>
      have told : (s.get reader call event).readers reader =
          { s.readers reader with
            queue := none, pc := .returned (s.readers reader).returnLen } := by
        simp [Requests.get, success, Requests.setReader]
      apply Advance.leave served current settled
      · rw [told]
        rfl
      · rw [told]
        exact ⟨ReadPc.noConfusion, rfl, nofun⟩
      · rw [told]
        exact ⟨rfl, rfl⟩
    | false =>
      have told : (s.get reader call event).readers reader =
          Reader.retry { s.readers reader with queue := none } := by
        simp [Requests.get, success, Requests.setReader]
      have emptied : ({ s.readers reader with queue := none } : Reader).queue = none := rfl
      have rests := Reader.retry_resting emptied
      apply Advance.leave served current settled
      · rw [told]
        exact rests.1
      · rw [told]
        exact rests.2.1
      · rw [told]
        exact rests.2.2

theorem moves_send (owned : Owned s.toIds) (inst pldmType cmd : Nat) :
    Moves s (s.begin none inst pldmType cmd) s.nextCall := by
  obtain ⟨found, cur, scanned⟩ := s.scan_eq none inst pldmType cmd
  have begun : s.begin none inst pldmType cmd =
      { s with toIds := (s.scan none inst pldmType cmd).1 } := by
    unfold Requests.begin Requests.tellReader
    rw [scanned]
    simp
  rw [begun, scanned]
  refine ⟨none, ⟨fun _ _ => rfl, fun _ different => update_of_ne different ..,
    fun _ _ => Iff.rfl, fun _ _ => rfl, rfl, by simp,
    .inr (owned.fresh s.nextCall le_rfl)⟩, ?_⟩
  intro reader impossible
  cases impossible

theorem begin_some (s : Requests) (reader inst pldmType cmd : Nat) :
    ∃ (found : Bool) (cur : InstId), s.begin (some reader) inst pldmType cmd = { s with
      nextCall := s.nextCall + 1
      curInstNum := cur
      calls := update s.calls s.nextCall
        ⟨some reader, inst, pldmType, cmd, 0, 0, if found then .scanned else .ended false⟩
      readers := if found then s.readers
        else update s.readers reader (s.readers reader).retry } := by
  obtain ⟨found, cur, scanned⟩ := s.scan_eq (some reader) inst pldmType cmd
  refine ⟨found, cur, ?_⟩
  unfold Requests.begin Requests.tellReader
  rw [scanned]
  cases found with
  | true => simp
  | false => simp [Requests.setReader]

theorem moves_attempt (served : Served s) (owned : Owned s.toIds)
    (unmatched : s.inFlight s.nextCall = none) (attempting : (s.readers reader).pc = .attempting) :
    Moves s (s.attempt reader) s.nextCall := by
  have absent := owned.fresh s.nextCall le_rfl
  have unlisted : s.nextCall ∉ s.listed := by
    intro member
    have sent := owned.listed_sent s.nextCall member
    rw [absent] at sent
    cases sent
  have idle : (s.readers reader).pc.call = none := by
    rw [attempting]
    rfl
  have present : (s.readers reader).pc ≠ .absent := by
    rw [attempting]
    exact nofun
  obtain ⟨_, empty, more⟩ := served.resting reader idle present
  have fewer := more attempting
  have before : s.left reader =
      16 * ((s.readers reader).maxRetry - (s.readers reader).attempts) := by
    unfold Requests.left
    rw [attempting]
  let trying : Reader :=
    { s.readers reader with
      attempts := (s.readers reader).attempts + 1, pc := .sending s.nextCall }
  obtain ⟨found, cur, begun⟩ := begin_some (s.setReader reader trying) reader
    (s.readers reader).inst (s.readers reader).pldmType (s.readers reader).cmd
  have told : (s.attempt reader).readers reader = if found then trying else trying.retry := by
    unfold Requests.attempt
    rw [begun]
    cases found with
    | true => simp [Requests.setReader]
    | false => simp [Requests.setReader]
  have others : ∀ other, other ≠ reader →
      (s.attempt reader).readers other = s.readers other := by
    intro other different
    unfold Requests.attempt
    rw [begun]
    cases found with
    | true => simp [Requests.setReader, different]
    | false => simp [Requests.setReader, different]
  have ids : (s.attempt reader).toIds = { s with
      nextCall := s.nextCall + 1
      curInstNum := cur
      calls := update s.calls s.nextCall
        ⟨some reader, (s.readers reader).inst, (s.readers reader).pldmType, (s.readers reader).cmd,
          0, 0, if found then .scanned else .ended false⟩ }.toIds := by
    unfold Requests.attempt
    rw [begun]
    rfl
  have signals : (s.attempt reader).toSignals = s.toSignals := by
    unfold Requests.attempt
    rw [begun]
    rfl
  refine ⟨some reader, ⟨?_, ?_, ?_, ?_, ?_, ?_, .inr absent⟩, ?_⟩
  · intro other different
    exact others other fun own => different (congrArg some own).symm
  · intro other different
    rw [ids]
    exact update_of_ne different ..
  · intro other _
    rw [ids]
  · intro other _
    rw [signals]
  · unfold Requests.attempt
    rw [begun]
    rfl
  · rw [ids]
    simp
  · intro asked same
    cases same
    have first : ∀ other, (s.readers reader).pc.call = some other → other = s.nextCall := by
      intro other current
      rw [idle] at current
      cases current
    have matched : (s.attempt reader).inFlight s.nextCall = none :=
      (congrArg (Signals.inFlight · s.nextCall) signals).trans unmatched
    have off : s.nextCall ∉ (s.attempt reader).listed := by
      rw [ids]
      exact unlisted
    cases found with
    | true =>
      rw [if_pos rfl] at told
      have here : ((s.attempt reader).readers reader).pc.call = some s.nextCall := by
        rw [told]
        rfl
      have scanned : ((s.attempt reader).calls s.nextCall).pc = .scanned := by
        rw [ids]
        simp
      refine ⟨first, present, .inl ⟨here, ?_⟩, ?_, ?_⟩
      · simp only [Requests.Serves, scanned]
        rw [told]
        refine ⟨rfl, off, matched, ?_⟩
        rw [told]
        exact empty
      · rw [told]
        exact fewer
      · have stage : (s.attempt reader).stage s.nextCall = 1 := by
          simp [Requests.stage, off, matched]
        rw [before, Requests.left_of_call here, told, scanned, stage]
        simp only [trying, CallPc.left]
        omega
    | false =>
      rw [if_neg Bool.false_ne_true] at told
      have still : trying.queue = none := empty
      obtain ⟨none, resting, attempts, maxRetry⟩ := Reader.retry_resting still
      have after : ((s.attempt reader).readers reader).pc.call = .none := by
        rw [told]
        exact none
      refine ⟨first, present, .inr ⟨after, ⟨⟨false, ?_⟩, off, matched⟩, ?_⟩, ?_, ?_⟩
      · rw [ids]
        simp
      · rw [told]
        exact resting
      · rw [told, attempts, maxRetry]
        exact fewer
      · have less := Requests.left_le after
        rw [told, attempts, maxRetry] at less
        simp only [trying] at less
        omega

end Events

def CallPc.early : CallPc → Bool
  | .absent | .scanned | .claimed => true
  | _ => false

/-- What holds of the signals in every state. -/
structure Signalled (s : Requests) : Prop where
  ledger : Ledger (fun call => s.inFlight call ≠ none) s.completed s.signalled
  own : ∀ pair ∈ s.consumed, pair.1 = pair.2
  listed : ∀ call ∈ s.listed, call ∉ s.completed
  late : ∀ call ∈ s.completed, (s.calls call).pc.early = false

theorem signalled_start : Signalled Requests.start where
  ledger := ⟨nodup_nil, nodup_nil, by simp [Requests.start], by simp [Requests.start]⟩
  own := nofun
  listed := nofun
  late := nofun

section Signals

variable {s t : Requests} {call : Nat}

theorem Signalled.keep (signalled : Signalled s) (moves : Moves s t call)
    (early : (t.calls call).pc.early = true → (s.calls call).pc.early = true)
    (listed : call ∈ t.listed → call ∈ s.listed ∨ (s.calls call).pc.early = true)
    (same : t.inFlight = s.inFlight ∧ t.completed = s.completed ∧ t.signalled = s.signalled)
    (own : ∀ pair ∈ t.consumed, pair.1 = pair.2) : Signalled t := by
  obtain ⟨_, apart, _⟩ := moves
  obtain ⟨inFlight, completed, sent⟩ := same
  refine ⟨?_, own, ?_, ?_⟩
  · rw [inFlight, completed, sent]
    exact signalled.ledger
  · intro other member done
    rw [completed] at done
    by_cases mine : other = call
    · subst mine
      rcases listed member with before | fresh
      · exact signalled.listed other before done
      · rw [signalled.late other done] at fresh
        cases fresh
    · exact signalled.listed other ((apart.listed other mine).mp member) done
  · intro other done
    rw [completed] at done
    have before := signalled.late other done
    by_cases mine : other = call
    · subst mine
      by_contra now
      rw [early (Bool.of_not_eq_false now)] at before
      cases before
    · rw [apart.calls other mine]
      exact before

theorem Signalled.complete (signalled : Signalled s) (owned : Owned s.toIds)
    (member : call ∈ s.listed) (calls : t.calls = s.calls) (listed : t.listed = s.listed.erase call)
    (completed : t.completed = s.completed ++ [call]) (consumed : t.consumed = s.consumed)
    (ledger : Ledger (fun call => t.inFlight call ≠ none) t.completed t.signalled) :
    Signalled t := by
  refine ⟨ledger, ?_, ?_, ?_⟩
  · rw [consumed]
    exact signalled.own
  · intro other left done
    rw [listed, owned.listed_nodup.mem_erase_iff] at left
    rw [completed] at done
    rcases List.mem_append.mp done with before | now
    · exact signalled.listed other left.2 before
    · exact left.1 (List.mem_singleton.mp now)
  · intro other done
    rw [calls]
    rw [completed] at done
    rcases List.mem_append.mp done with before | now
    · exact signalled.late other before
    · obtain rfl := List.mem_singleton.mp now
      have sent := owned.listed_sent other member
      cases pc : (s.calls other).pc with
      | absent | scanned | claimed =>
        rw [pc] at sent
        cases sent
      | appended | sendFailed | releasing | ended => rfl

end Signals

/-- What holds in every state. -/
structure Answered (s : Requests) : Prop where
  owned : Owned s.toIds
  served : Served s
  signalled : Signalled s

/-- The step is one that this reader, or the transport or the monitor for it, was to take. -/
def ReadTurn (reader : Nat) (s : Requests) : ReqEvent → Prop
  | .attempt asked | .get asked => asked = reader
  | .claim call | .append call _ | .sent call _ | .remove call | .release call | .callback call
  | .expire call => (s.calls call).reader = some reader
  | _ => False

/-- A step leaves no reader with more before it, and one whose turn it was with less. -/
def Progress (s t : Requests) (event : ReqEvent) : Prop :=
  ∀ reader, (s.readers reader).pc ≠ .absent → (t.readers reader).pc ≠ .absent ∧
    t.left reader ≤ s.left reader ∧ (ReadTurn reader s event → t.left reader < s.left reader)

section Step

variable {s t : Requests} {event : ReqEvent} {call : Nat}

theorem Moves.reader (moves : Moves s t call) (present : (s.calls call).pc ≠ .absent) {reader : Nat}
    (mine : (s.calls call).reader = some reader) : (t.calls call).reader = some reader := by
  obtain ⟨owner, apart, _⟩ := moves
  rw [apart.owner]
  exact (apart.known.resolve_right present).symm.trans mine

theorem Served.progress (served : Served s) (moves : Moves s t call)
    (turn : ∀ reader, ReadTurn reader s event → (t.calls call).reader = some reader) :
    Served t ∧ Progress s t event := by
  obtain ⟨kept, left⟩ := served.moves moves
  refine ⟨kept, fun reader present => ?_⟩
  obtain ⟨remains, less, mine⟩ := left reader present
  exact ⟨remains, less, fun taken => mine (turn reader taken)⟩

theorem Served.read (served : Served s) (retries : Retries) (inst pldmType cmd rbufLen : Nat)
    (mallocOk : Bool) :
    Served (s.beginRead retries inst pldmType cmd rbufLen mallocOk) ∧
      Progress s (s.beginRead retries inst pldmType cmd rbufLen mallocOk)
        (.read inst pldmType cmd rbufLen mallocOk) := by
  have absent := served.fresh s.nextReader le_rfl
  have strangers : ∀ call, (s.calls call).reader ≠ some s.nextReader := by
    intro call owned
    exact Nat.lt_irrefl _ (served.begun s.nextReader call owned)
  have others : ∀ other, other ≠ s.nextReader →
      (s.beginRead retries inst pldmType cmd rbufLen mallocOk).readers other = s.readers other :=
    fun other different => update_of_ne different ..
  have new : ((s.beginRead retries inst pldmType cmd rbufLen mallocOk).readers
      s.nextReader).pc.call = none ∧
      ((s.beginRead retries inst pldmType cmd rbufLen mallocOk).readers s.nextReader).Resting ∧
      ((s.beginRead retries inst pldmType cmd rbufLen mallocOk).readers s.nextReader).attempts =
        0 := by
    unfold Requests.beginRead Requests.setReader Reader.Resting
    simp only [update_self]
    split
    · exact ⟨rfl, ⟨ReadPc.noConfusion, trivial, nofun⟩, trivial⟩
    · rename_i go
      have some_left := Nat.pos_of_ne_zero fun zero => go (.inr (.inr zero))
      exact ⟨rfl, ⟨ReadPc.noConfusion, trivial, fun _ => some_left⟩, trivial⟩
  obtain ⟨idle, resting, none⟩ := new
  refine ⟨⟨?_, ?_, ?_, ?_, ?_, ?_⟩, ?_⟩
  · intro reader call current
    by_cases own : reader = s.nextReader
    · subst own
      rw [idle] at current
      cases current
    · rw [others reader own] at current
      obtain ⟨owned, serves⟩ := served.current reader call current
      refine ⟨owned, ?_⟩
      simp only [Requests.Serves, Requests.Answering, Requests.Quiet, others reader own]
      exact serves
  · intro reader call owned gone
    have own : reader ≠ s.nextReader := by
      rintro rfl
      exact strangers call owned
    rw [others reader own] at gone
    exact served.settled reader call owned gone
  · intro reader rests present
    by_cases own : reader = s.nextReader
    · subst own
      exact resting
    · rw [others reader own] at rests present ⊢
      exact served.resting reader rests present
  · intro reader
    by_cases own : reader = s.nextReader
    · subst own
      rw [none]
      exact Nat.zero_le _
    · rw [others reader own]
      exact served.counted reader
  · intro reader call owned
    exact Nat.lt_succ_of_lt (served.begun reader call owned)
  · intro reader later
    have own : reader ≠ s.nextReader := Nat.ne_of_gt later
    rw [others reader own]
    exact served.fresh reader (Nat.le_of_succ_le later)
  · intro reader present
    have own : reader ≠ s.nextReader := by
      rintro rfl
      exact present absent
    refine ⟨?_, Nat.le_of_eq ?_, fun turn => turn.elim⟩
    · rw [others reader own]
      exact present
    · simp only [Requests.left, others reader own]
      rfl

theorem Answered.unmatched (answered : Answered s) : s.inFlight s.nextCall = none := by
  by_contra matched
  have done : s.nextCall ∈ s.completed :=
    (answered.signalled.ledger.split s.nextCall).mpr (.inl matched)
  have late := answered.signalled.late s.nextCall done
  rw [answered.owned.fresh s.nextCall le_rfl] at late
  cases late

theorem ReadGuard.ids (guarded : ReadGuard s event) : IdGuard s event := by
  cases event with
  | sent call ok => trivial
  | response inst instId pldmType cmd len => trivial
  | expire call => trivial
  | _ => exact guarded

/-- Every guarded step keeps the readers served and the signals right, and is progress. -/
theorem served_step {retries : Retries} (answered : Answered s) (guarded : ReadGuard s event)
    (moved : reqStep retries s event = some t) :
    (Served t ∧ Progress s t event) ∧ Signalled t := by
  obtain ⟨owned, served, signalled⟩ := answered
  have unmatched := Answered.unmatched ⟨owned, served, signalled⟩
  have absent := owned.fresh s.nextCall le_rfl
  cases event with
  | send inst pldmType cmd =>
    cases moved
    have moves := moves_send owned inst pldmType cmd
    have early : (s.calls s.nextCall).pc.early = true := by
      rw [absent]
      rfl
    refine ⟨served.progress moves fun _ turn => turn.elim,
      signalled.keep moves (fun _ => early) (fun _ => .inr early) ?_ ?_⟩
    · rw [Requests.begin_toSignals]
      exact ⟨rfl, rfl, rfl⟩
    · rw [Requests.begin_toSignals]
      exact signalled.own
  | read inst pldmType cmd rbufLen mallocOk =>
    cases moved
    exact ⟨served.read retries inst pldmType cmd rbufLen mallocOk,
      signalled.ledger, signalled.own, signalled.listed, signalled.late⟩
  | attempt reader =>
    obtain ⟨attempting, moved⟩ := Option.ite_none_right_eq_some.mp moved
    cases moved
    have moves := moves_attempt served owned unmatched attempting
    have early : (s.calls s.nextCall).pc.early = true := by
      rw [absent]
      rfl
    refine ⟨served.progress moves ?_,
      signalled.keep moves (fun _ => early) (fun _ => .inr early) ?_ ?_⟩
    · rintro asked rfl
      unfold Requests.attempt
      rw [Requests.begin_toIds]
      obtain ⟨_, _, scanned⟩ := s.scan_eq (some reader) (s.readers reader).inst
        (s.readers reader).pldmType (s.readers reader).cmd
      rw [Requests.setReader_toIds, scanned]
      simp
    · rw [Requests.attempt, Requests.begin_toSignals]
      exact ⟨rfl, rfl, rfl⟩
    · rw [Requests.attempt, Requests.begin_toSignals]
      exact signalled.own
  | claim call =>
    obtain ⟨scanned, moved⟩ := Option.ite_none_right_eq_some.mp moved
    cases moved
    have moves := moves_claim served scanned
    have present : (s.calls call).pc ≠ .absent := by
      rw [scanned]
      exact CallPc.noConfusion
    have early : (s.calls call).pc.early = true := by
      rw [scanned]
      rfl
    exact ⟨served.progress moves fun _ => moves.reader present,
      signalled.keep moves (fun _ => early) (fun _ => .inr early) ⟨rfl, rfl, rfl⟩ signalled.own⟩
  | append call node =>
    obtain ⟨allowed, moved⟩ := Option.ite_none_right_eq_some.mp moved
    cases moved
    have moves := moves_append served owned allowed.1 node
    have present : (s.calls call).pc ≠ .absent := by
      rw [allowed.1]
      exact CallPc.noConfusion
    have early : (s.calls call).pc.early = true := by
      rw [allowed.1]
      rfl
    exact ⟨served.progress moves fun _ => moves.reader present,
      signalled.keep moves (fun _ => early) (fun _ => .inr early) ⟨rfl, rfl, rfl⟩ signalled.own⟩
  | sent call ok =>
    obtain ⟨appended, moved⟩ := Option.ite_none_right_eq_some.mp moved
    have present : (s.calls call).pc ≠ .absent := by
      rw [appended]
      exact CallPc.noConfusion
    cases ok with
    | true =>
      cases moved
      have moves := moves_sent served appended true fun failed => Bool.noConfusion failed
      refine ⟨served.progress moves fun _ => moves.reader present, signalled.keep moves ?_ ?_ ?_ ?_⟩
      · rw [Requests.return_toIds, Ids.goto_calls_self]
        exact fun early => Bool.noConfusion early
      · rw [Requests.return_toIds]
        exact .inl
      · rw [Requests.return_toSignals]
        exact ⟨rfl, rfl, rfl⟩
      · rw [Requests.return_toSignals]
        exact signalled.own
    | false =>
      cases moved
      have moves := moves_sent served appended false fun _ => guarded
      refine ⟨served.progress moves fun _ => moves.reader present,
        signalled.keep moves ?_ .inl ⟨rfl, rfl, rfl⟩ signalled.own⟩
      rw [Ids.goto_calls_self]
      exact fun early => Bool.noConfusion early
  | remove call =>
    obtain ⟨allowed, moved⟩ := Option.ite_none_right_eq_some.mp moved
    cases moved
    have moves := moves_remove served owned allowed.1 guarded
    have present : (s.calls call).pc ≠ .absent := by
      rw [allowed.1]
      exact CallPc.noConfusion
    refine ⟨served.progress moves fun _ => moves.reader present,
      signalled.keep moves ?_ ?_ ⟨rfl, rfl, rfl⟩ signalled.own⟩
    · show ((s.remove call).calls call).pc.early = true → _
      unfold Ids.remove
      split
      · simp [Ids.free, s.goto_calls_self, CallPc.early]
      · simp [s.goto_calls_self, CallPc.early]
    · show call ∈ (s.remove call).listed → _
      unfold Ids.remove
      split
      · exact fun left => .inl (mem_of_mem_erase left)
      · exact .inl
  | release call =>
    simp only [reqStep] at moved
    split at moved
    · rename_i own releasing
      cases moved
      have moves := moves_release served releasing
      have present : (s.calls call).pc ≠ .absent := by
        rw [releasing]
        exact CallPc.noConfusion
      refine ⟨served.progress moves fun _ => moves.reader present, signalled.keep moves ?_ ?_ ?_ ?_⟩
      · rw [Requests.return_toIds, Ids.goto_calls_self]
        exact fun early => Bool.noConfusion early
      · rw [Requests.return_toIds]
        show call ∈ (s.unregister call).1.listed → _
        unfold Ids.unregister
        split <;> exact .inl
      · rw [Requests.return_toSignals]
        exact ⟨rfl, rfl, rfl⟩
      · rw [Requests.return_toSignals]
        exact signalled.own
    · cases moved
  | response inst instId pldmType cmd len =>
    have aside : (Served s ∧ Progress s s (.response inst instId pldmType cmd len)) ∧
        Signalled s :=
      ⟨⟨served, fun _ present => ⟨present, le_rfl, fun turn => turn.elim⟩⟩, signalled⟩
    simp only [reqStep] at moved
    split at moved
    · cases moved
      exact aside
    · cases moved
      unfold Requests.response
      split
      · exact aside
      · rename_i call found
        have member := mem_of_find?_eq_some found
        have unlinked := (owned.unlink member).1
        rw [if_pos unlinked]
        have moves := moves_response served owned member (guarded call found)
          (s.completed ++ [call])
        refine ⟨served.progress moves fun _ turn => turn.elim,
          signalled.complete owned member (unlink_calls s.toIds) (unlink_listed s.toIds) rfl rfl ?_⟩
        apply signalled.ledger.take (signalled.listed call member)
        intro other
        by_cases own : other = call
        · subst own
          simp
        · simp [own]
  | callback call =>
    simp only [reqStep] at moved
    split at moved
    · rename_i rlen matched
      cases moved
      obtain ⟨moves, signals⟩ := moves_callback served matched
      have holding : s.inFlight call ≠ none := by
        rw [matched]
        exact some_ne_none rlen
      have done : call ∈ s.completed := (signalled.ledger.split call).mpr (.inl holding)
      have late := signalled.late call done
      have present : (s.calls call).pc ≠ .absent := by
        intro gone
        rw [gone] at late
        cases late
      refine ⟨served.progress moves fun _ => moves.reader present, ?_, ?_, ?_, ?_⟩
      · rw [signals]
        apply signalled.ledger.give holding
        intro other
        by_cases own : other = call
        · subst own
          simp
        · simp [own]
      · rw [signals]
        exact signalled.own
      · rw [signals, Requests.handle_toIds]
        exact signalled.listed
      · rw [signals, Requests.handle_toIds]
        exact signalled.late
    · cases moved
  | expire call =>
    obtain ⟨member, moved⟩ := Option.ite_none_right_eq_some.mp moved
    cases moved
    obtain ⟨moves, signals⟩ := moves_expire served owned member guarded
    have unlinked := (owned.unlink member).1
    have ids : (s.expire call).toIds = (s.unlink call).1.free call := by
      unfold Requests.expire
      rw [if_pos unlinked]
    have present : (s.calls call).pc ≠ .absent := by
      intro gone
      have sent := owned.listed_sent call member
      rw [gone] at sent
      cases sent
    refine ⟨served.progress moves fun _ => moves.reader present,
      signalled.complete owned member ?_ ?_ ?_ ?_ ?_⟩
    · rw [ids]
      exact unlink_calls s.toIds
    · rw [ids]
      exact unlink_listed s.toIds
    · rw [signals]
    · rw [signals]
    · rw [signals]
      exact signalled.ledger.pass (signalled.listed call member)
  | get reader =>
    simp only [reqStep] at moved
    split at moved
    · rename_i call event waiting queue
      cases moved
      obtain ⟨own, moves⟩ := moves_get served waiting queue
      have current : (s.readers reader).pc.call = some call := by
        rw [waiting]
        rfl
      have mine := (served.current reader call current).1
      have signals : (s.get reader call event).toSignals =
          { s.toSignals with consumed := s.consumed ++ [(call, event.call)] } := by
        unfold Requests.get
        split <;> rfl
      refine ⟨served.progress moves ?_, signalled.keep moves ?_ ?_ ?_ ?_⟩
      · rintro asked rfl
        rw [Requests.get_toIds]
        exact mine
      · rw [Requests.get_toIds]
        exact id
      · rw [Requests.get_toIds]
        exact .inl
      · rw [signals]
        exact ⟨rfl, rfl, rfl⟩
      · rw [signals]
        intro pair got
        rcases List.mem_append.mp got with before | now
        · exact signalled.own pair before
        · obtain rfl := List.mem_singleton.mp now
          exact own.symm
    · cases moved
  | undo inst instId => exact guarded.elim

end Step

variable {retries : Retries}

/-- A guarded event keeps every reader answered or on its way. -/
theorem answered_step {s t : Requests} {event : ReqEvent}
    (answered : Answered s) (guarded : ReadGuard s event)
    (moved : reqStep retries s event = some t) : Answered t :=
  have kept := served_step answered guarded moved
  ⟨owned_step answered.owned guarded.ids moved, kept.1.1, kept.2⟩

theorem answered_start : Answered Requests.start := ⟨owned_start, served_start, signalled_start⟩

/-- A read has returned. -/
def Returned (reader : Nat) (s : Requests) : Prop :=
  ∃ length, (s.readers reader).pc = .returned length

/-- A reader that has begun and not returned has a turn that can be taken. -/
theorem Answered.able {s : Requests} (answered : Answered s) {reader : Nat}
    (present : (s.readers reader).pc ≠ .absent)
    (running : ∀ length, (s.readers reader).pc ≠ .returned length) :
    ∃ event, ReadTurn reader s event ∧ reqStep retries s event ≠ none := by
  have calling : ∀ call, (s.readers reader).pc.call = some call →
      ∃ event, ReadTurn reader s event ∧ reqStep retries s event ≠ none := by
    intro call current
    obtain ⟨mine, serves⟩ := answered.served.current reader call current
    have free := answered.owned.running
    cases pc : (s.calls call).pc with
    | absent => simp only [Requests.Serves, pc] at serves
    | scanned => exact ⟨.claim call, mine, by simp [reqStep, pc]⟩
    | claimed => exact ⟨.append call none, mine, by simp [reqStep, pc, free]⟩
    | appended => exact ⟨.sent call true, mine, by simp [reqStep, pc]⟩
    | sendFailed => exact ⟨.remove call, mine, by simp [reqStep, pc, free]⟩
    | releasing own => exact ⟨.release call, mine, by simp [reqStep, pc]⟩
    | ended sent =>
      cases sent with
      | false => simp only [Requests.Serves, pc] at serves
      | true =>
        simp only [Requests.Serves, pc] at serves
        obtain ⟨waiting, answer, answering⟩ := serves
        cases answer with
        | listed => exact ⟨.expire call, mine, by simp [reqStep, answering.1]⟩
        | matched =>
          obtain ⟨_, ⟨rlen, matched, _⟩, _⟩ := answering
          exact ⟨.callback call, mine, by simp [reqStep, matched]⟩
        | queued =>
          obtain ⟨_, _, success, queue⟩ := answering
          exact ⟨.get reader, rfl, by simp [reqStep, waiting, queue]⟩
  cases pc : (s.readers reader).pc with
  | absent => exact absurd pc present
  | attempting => exact ⟨.attempt reader, rfl, by simp [reqStep, pc]⟩
  | sending call | waiting call => exact calling call (by rw [pc]; rfl)
  | returned length => exact absurd pc (running length)

theorem returns_of_fair {states : Nat → Requests} {events : Nat → ReqEvent}
    (execution : Execution (reqStep retries) ReadGuard states events)
    (initial : states 0 = Requests.start) {reader : Nat}
    (fair : Fair (reqStep retries) (ReadTurn reader) states events) {time : Nat}
    (begun : ((states time).readers reader).pc ≠ .absent) :
    ∃ later, time ≤ later ∧ Returned reader (states later) := by
  have kept : ∀ {s event t}, Answered s → ReadGuard s event → reqStep retries s event = some t →
      Answered t := answered_step
  have answered : ∀ now, Answered (states now) := by
    apply execution.invariant kept
    rw [initial]
    exact answered_start
  have progress : ∀ now, Progress (states now) (states (now + 1)) (events now) := fun now =>
    (served_step (answered now) (execution now).1 (execution now).2).1.2
  have present : ∀ now, time ≤ now → ((states now).readers reader).pc ≠ .absent := by
    intro now later
    induction later with
    | refl => exact begun
    | step _ ih => exact (progress _ reader ih).1
  let weight : Requests → Nat := fun s => s.left reader
  have able : ∀ now, time ≤ now → ¬ Returned reader (states now) →
      ∃ event, ReadTurn reader (states now) event ∧ reqStep retries (states now) event ≠ none := by
    intro now later running
    exact (answered now).able (present now later) fun length returned => running ⟨length, returned⟩
  have settled : ∀ now, time ≤ now → weight (states (now + 1)) ≤ weight (states now) :=
    fun now later => (progress now reader (present now later)).2.1
  have lowered : ∀ now, time ≤ now → ReadTurn reader (states now) (events now) →
      weight (states (now + 1)) < weight (states now) :=
    fun now later turn => (progress now reader (present now later)).2.2 turn
  exact fair.eventually able settled lowered

/-- Completions are signalled once, to the attempt they belong to, and leave nothing behind. -/
structure ReadsAnswered (s : Requests) : Prop where
  once : s.completed.Nodup ∧ s.signalled.Nodup
  signalled : ∀ call, call ∈ s.completed ↔ call ∈ s.signalled ∨ s.inFlight call ≠ none
  apart : ∀ call ∈ s.signalled, s.inFlight call = none
  own : ∀ pair ∈ s.consumed, pair.1 = pair.2
  detached : ∀ reader call, Returned reader s → (s.calls call).reader = some reader →
    call ∉ s.listed ∧ s.inFlight call = none

theorem Answered.readsAnswered {s : Requests} (answered : Answered s) : ReadsAnswered s where
  once := ⟨answered.signalled.ledger.allocated_nodup, answered.signalled.ledger.released_nodup⟩
  signalled := fun call => by rw [answered.signalled.ledger.split, or_comm]
  apart := fun call sent => not_not.mp (answered.signalled.ledger.apart call sent)
  own := answered.signalled.own
  detached := by
    rintro reader call ⟨length, returned⟩ mine
    have gone : (s.readers reader).pc.call ≠ some call := by
      rw [returned]
      exact nofun
    exact (answered.served.settled reader call mine gone).2

/-- A read whose first attempt times out, whose second cannot be sent, and whose third is
answered with eight bytes. -/
def threeAttempts : List ReqEvent :=
  [.read 0 2 0x11 64 true, .attempt 0, .claim 0, .append 0 (some 64), .sent 0 true, .expire 0,
    .get 0, .attempt 0, .claim 1, .append 1 (some 64), .sent 1 false, .remove 1, .release 1,
    .attempt 0, .claim 2, .append 2 (some 64), .response 0 2 2 0x11 12, .callback 2, .sent 2 true,
    .get 0]

def headerOnly : List ReqEvent :=
  [.read 0 2 0x11 64 true, .attempt 0, .claim 0, .append 0 (some 64), .sent 0 true,
    .response 0 0 2 0x11 4, .callback 0]

end OpenBic.Pldm
