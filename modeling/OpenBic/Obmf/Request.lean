import OpenBic.Obmf.Service

/-!
# Requests of the device

A channel on which the device sends requests and the host answers them: `obmf_send_request`, what
becomes of a request in the transmit thread and at the host, and everything that sets or clears
`is_outstanding`. Messages carry no tag, so the flag is all that joins a response to a request.
Beside the state of the service stand the requests that are under way and which response was taken
for which request.
-/

namespace OpenBic.Obmf

open List

open Library.Machine

def requestTimeoutMs : Nat := 12000

/-- Where a request is. -/
inductive Stage where
  /-- In `obmf_tx_msgq`. -/
  | queued
  /-- In the hands of `obmf_tx_thread`. -/
  | sending
  | unanswered
deriving DecidableEq

/-- A request under way. -/
structure Item (ρ : Type) where
  id : Nat
  request : ρ
  stage : Stage
  abandoned : Bool

/-- A channel with the requests on it. -/
structure Requests (ρ : Type) where
  now : Nat
  enabled : Bool
  tag : ChannelTags
  next : Nat
  items : List (Item ρ)
  taken : List (Nat × Nat)

/-- What `obmf_send_request` returns. -/
inductive SendResult where
  | ok
  | netDown
  | busy
  | noMem
  | noBufs
deriving DecidableEq

/-- What happens to the channel. -/
inductive RequestEvent (ρ : Type) where
  | tick (ms : Nat)
  /-- `obmf_send_request`, with whether memory is left and whether `obmf_tx_msgq` is full. -/
  | send (request : ρ) (heap full : Bool)
  /-- `obmf_send_request` after its checks, when other steps came between; it sets the flag and
  queues at once. -/
  | commit (request : ρ) (heap full : Bool)
  /-- `obmf_tx_thread` takes the next request of the channel. -/
  | take
  /-- `obmf_tx_thread` is done with it, with or without a failure. -/
  | sent (ok : Bool)
  | response (id : Nat) (clears : Bool)
  | expire (id : Nat)
  /-- A sender clears the flag after `-EBUSY`. -/
  | release
  /-- The host writes `CHANNEL_CONTROL`. -/
  | control (newCtrl : UInt8)
  | linkDown
  | linkUp
  | busReset

/-- What happens on a channel on its own; the rest is done by the threads and the callbacks. -/
def RequestEvent.ofChannel {ρ : Type} : RequestEvent ρ → Bool
  | .tick _ | .take | .sent _ | .control _ | .linkDown | .linkUp | .busReset => true
  | .send .. | .commit .. | .response .. | .expire _ | .release => false

namespace Requests

variable {ρ : Type}

def init : Requests ρ := ⟨0, false, ⟨false, 0⟩, 0, [], []⟩

def clear (channel : Requests ρ) : Requests ρ :=
  { channel with tag := { channel.tag with isOutstanding := false } }

def abandon (channel : Requests ρ) (id : Nat) : Requests ρ :=
  { channel with
    items := channel.items.map fun item =>
      if item.id = id then { item with abandoned := true } else item }

def drop (channel : Requests ρ) (id : Nat) : Requests ρ :=
  { channel with items := channel.items.filter fun item => item.id ≠ id }

def move (channel : Requests ρ) (id : Nat) (stage : Stage) : Requests ρ :=
  { channel with
    items := channel.items.map fun item =>
      if item.id = id then { item with stage := stage } else item }

def firstAt (channel : Requests ρ) (stage : Stage) : Option (Item ρ) :=
  channel.items.find? fun item => item.stage = stage

/-- `obmf_send_request` behind its checks. -/
def commit (channel : Requests ρ) (request : ρ) (heap full : Bool) : Requests ρ × SendResult :=
  if heap = false then (channel.clear, .noMem)
  else if full then ({ channel with tag := ⟨false, channel.now⟩ }, .noBufs)
  else
    ({ channel with
      tag := ⟨true, channel.now⟩
      next := channel.next + 1
      items := channel.items ++ [⟨channel.next, request, .queued, false⟩] }, .ok)

def sendRequest (channel : Requests ρ) (request : ρ) (heap full : Bool) :
    Requests ρ × SendResult :=
  if channel.enabled = false then (channel, .netDown)
  else if channel.tag.isOutstanding ∧ channel.now - channel.tag.sentAt < requestTimeoutMs then
    (channel, .busy)
  else
    (if channel.tag.isOutstanding then channel.abandon (channel.next - 1) else channel).commit
      request heap full

/-- `obmf_tx_thread` gets the next request of the channel, unless it has one. -/
def takeRequest (channel : Requests ρ) : Option (Requests ρ) :=
  match channel.firstAt .sending, channel.firstAt .queued with
  | none, some item => some (channel.move item.id .sending)
  | _, _ => none

/-- `obmf_tx_thread` has sent the packets of its request, or one of them failed. -/
def finishSending (channel : Requests ρ) (ok : Bool) : Option (Requests ρ) :=
  match channel.firstAt .sending with
  | none => none
  | some item =>
    some (if ok then channel.move item.id .unanswered else (channel.drop item.id).clear)

/-- The branch of `obmf_get_response` for responses: a response to a request at the host, dropped
unless a request is outstanding. -/
def getResponse (channel : Requests ρ) (id : Nat) (clears : Bool) : Requests ρ :=
  let answered := channel.drop id
  if channel.tag.isOutstanding = false then answered
  else
    let handled := { answered with taken := channel.taken ++ [(channel.next - 1, id)] }
    if clears then handled.clear else handled

def controlWrite (channel : Requests ρ) (newCtrl : UInt8) : Requests ρ :=
  let written := { channel with enabled := decide (newCtrl &&& 0x01 ≠ 0) }
  if newCtrl &&& 0x02 ≠ 0 ∨ channel.enabled ≠ decide (newCtrl &&& 0x01 ≠ 0) then written.clear
  else written

/-- `obmf_channels_link_down`: what is queued is dropped. -/
def linkDown (channel : Requests ρ) : Requests ρ :=
  let purged := { channel with items := channel.items.filter fun item => item.stage ≠ .queued }
  if channel.enabled then { purged with enabled := false }.clear else purged

def step (channel : Requests ρ) : RequestEvent ρ → Option (Requests ρ)
  | .tick ms => some { channel with now := channel.now + ms }
  | .send request heap full => some (channel.sendRequest request heap full).1
  | .commit request heap full => some (channel.commit request heap full).1
  | .take => channel.takeRequest
  | .sent ok => channel.finishSending ok
  | .response id clears =>
    if ∃ item ∈ channel.items, item.id = id ∧ item.stage = .unanswered then
      some (channel.getResponse id clears)
    else none
  | .expire id => some (channel.abandon id).clear
  | .release => some channel.clear
  | .control newCtrl => some (channel.controlWrite newCtrl)
  | .linkDown => some channel.linkDown
  | .linkUp => some { channel with enabled := true }
  | .busReset => some channel.clear

/-! ## What holds over runs -/

/-- At most one request is under way that was not given up after its timeout. -/
def AtMostOne (channel : Requests ρ) : Prop :=
  (channel.items.filter fun item => item.abandoned = false).length ≤ 1

/-- Each response is taken for the request it answers. -/
def Matched (channel : Requests ρ) : Prop := ∀ pair ∈ channel.taken, pair.1 = pair.2

/-- The request was queued last. -/
def IsLast (channel : Requests ρ) (id : Nat) : Prop := id + 1 = channel.next

/-- Every request that is not queued was given up after its timeout. -/
def Settled (channel : Requests ρ) : Prop :=
  ∀ item ∈ channel.items, item.stage ≠ .queued → item.abandoned = true

/-- An event clears the flag of a request under way only if it is the request's own answer, transmit
failure or timeout; a link going down drops what is queued itself. A call that other steps come into
finds the flag clear when it sets it. -/
def Own (channel : Requests ρ) : RequestEvent ρ → Prop
  | .response id _ => channel.tag.isOutstanding = true → channel.IsLast id
  | .sent ok => ok = false → channel.tag.isOutstanding = true →
      ∀ item ∈ channel.firstAt .sending, channel.IsLast item.id
  | .expire id => channel.tag.isOutstanding = true → channel.IsLast id
  | .control newCtrl =>
    newCtrl &&& 0x02 ≠ 0 ∨ channel.enabled ≠ decide (newCtrl &&& 0x01 ≠ 0) →
      ∀ item ∈ channel.items, item.abandoned = true
  | .linkDown => channel.enabled = true → channel.Settled
  | .release | .busReset => ∀ item ∈ channel.items, item.abandoned = true
  | .commit .. => channel.tag.isOutstanding = false
  | .tick _ | .send .. | .take | .linkUp => True

instance (channel : Requests ρ) (event : RequestEvent ρ) : Decidable (channel.Own event) := by
  cases event
  all_goals
    unfold Own
    try unfold IsLast
    try unfold Settled
    infer_instance

/-- What holds in every state. -/
structure Invariant (channel : Requests ρ) : Prop where
  fresh : ∀ item ∈ channel.items, item.id < channel.next
  distinct : (channel.items.map (·.id)).Nodup
  held : ∀ item ∈ channel.items, item.abandoned = false →
    channel.tag.isOutstanding = true ∧ channel.IsLast item.id
  matched : channel.Matched

variable {channel after : Requests ρ}

theorem invariant_init : (init : Requests ρ).Invariant where
  fresh := fun _ listed => absurd listed not_mem_nil
  distinct := nodup_nil
  held := fun _ listed => absurd listed not_mem_nil
  matched := fun _ listed => absurd listed not_mem_nil

theorem Invariant.of_items (holds : channel.Invariant) (next : after.next = channel.next)
    (ids : (after.items.map (·.id)).Sublist (channel.items.map (·.id)))
    (origin : ∀ item ∈ after.items, item.abandoned = false →
      (∃ old ∈ channel.items, old.id = item.id ∧ old.abandoned = false) ∧
        (channel.tag.isOutstanding = true → after.tag.isOutstanding = true))
    (matched : after.Matched) : after.Invariant where
  fresh := fun item listed => by
    obtain ⟨old, oldListed, same⟩ := List.mem_map.mp (ids.subset (List.mem_map_of_mem listed))
    rw [next, ← same]
    exact holds.fresh old oldListed
  distinct := holds.distinct.sublist ids
  held := fun item listed waiting => by
    obtain ⟨⟨old, oldListed, same, oldWaiting⟩, flagged⟩ := origin item listed waiting
    obtain ⟨flag, last⟩ := holds.held old oldListed oldWaiting
    refine ⟨flagged flag, ?_⟩
    rw [IsLast, next, ← same]
    exact last
  matched := matched

theorem Invariant.clear (holds : channel.Invariant)
    (settled : ∀ item ∈ channel.items, item.abandoned = true) : channel.clear.Invariant :=
  holds.of_items rfl (List.Sublist.refl _) (fun item listed waiting => by
    rw [settled item listed] at waiting
    exact absurd waiting (by decide)) holds.matched

theorem Invariant.of_eq (holds : channel.Invariant) (next : after.next = channel.next)
    (items : after.items = channel.items)
    (tag : after.tag.isOutstanding = channel.tag.isOutstanding)
    (taken : after.taken = channel.taken) : after.Invariant :=
  holds.of_items next (items ▸ List.Sublist.refl _)
    (fun item listed waiting => ⟨⟨item, items ▸ listed, rfl, waiting⟩, fun flag => tag.trans flag⟩)
    (fun pair listed => holds.matched pair (taken ▸ listed))

theorem ids_abandon (channel : Requests ρ) (id : Nat) :
    (channel.abandon id).items.map (·.id) = channel.items.map (·.id) := by
  simp only [abandon, List.map_map]
  refine map_congr_left fun item _ => ?_
  simp only [Function.comp_apply]
  split <;> rfl

theorem ids_move (channel : Requests ρ) (id : Nat) (stage : Stage) :
    (channel.move id stage).items.map (·.id) = channel.items.map (·.id) := by
  simp only [move, List.map_map]
  refine map_congr_left fun item _ => ?_
  simp only [Function.comp_apply]
  split <;> rfl

theorem mem_abandon {id : Nat} {item : Item ρ} (listed : item ∈ (channel.abandon id).items)
    (waiting : item.abandoned = false) : item ∈ channel.items ∧ item.id ≠ id := by
  obtain ⟨old, oldListed, rfl⟩ := List.mem_map.mp listed
  split at waiting
  · cases waiting
  · rename_i other
    rw [if_neg other]
    exact ⟨oldListed, other⟩

theorem mem_move {id : Nat} {stage : Stage} {item : Item ρ}
    (listed : item ∈ (channel.move id stage).items) :
    ∃ old ∈ channel.items, old.id = item.id ∧ old.abandoned = item.abandoned := by
  obtain ⟨old, oldListed, rfl⟩ := List.mem_map.mp listed
  refine ⟨old, oldListed, ?_⟩
  split <;> exact ⟨rfl, rfl⟩

theorem Invariant.settled_abandon (holds : channel.Invariant) {id : Nat}
    (own : channel.tag.isOutstanding = true → channel.IsLast id) :
    ∀ item ∈ (channel.abandon id).items, item.abandoned = true := by
  intro item listed
  by_contra waiting
  rw [Bool.not_eq_true] at waiting
  obtain ⟨before, other⟩ := mem_abandon listed waiting
  obtain ⟨flag, last⟩ := holds.held item before waiting
  exact other (Nat.succ.inj (last.trans (own flag).symm))

theorem Invariant.settled_drop (holds : channel.Invariant) {id : Nat}
    (own : channel.tag.isOutstanding = true → channel.IsLast id) :
    ∀ item ∈ (channel.drop id).items, item.abandoned = true := by
  intro item listed
  obtain ⟨before, other⟩ := List.mem_filter.mp listed
  by_contra waiting
  rw [Bool.not_eq_true] at waiting
  obtain ⟨flag, last⟩ := holds.held item before waiting
  exact of_decide_eq_true other (Nat.succ.inj (last.trans (own flag).symm))

theorem Invariant.abandon (holds : channel.Invariant) (id : Nat) :
    (channel.abandon id).Invariant :=
  holds.of_items rfl (channel.ids_abandon id ▸ List.Sublist.refl _)
    (fun item listed waiting => ⟨⟨item, (mem_abandon listed waiting).1, rfl, waiting⟩, fun flag =>
      flag⟩) holds.matched

theorem Invariant.move (holds : channel.Invariant) (id : Nat) (stage : Stage) :
    (channel.move id stage).Invariant :=
  holds.of_items rfl (channel.ids_move id stage ▸ List.Sublist.refl _)
    (fun item listed waiting => by
      obtain ⟨old, oldListed, same, given⟩ := mem_move listed
      exact ⟨⟨old, oldListed, same, given.trans waiting⟩, fun flag => flag⟩) holds.matched

theorem Invariant.filter (holds : channel.Invariant) (keep : Item ρ → Bool) :
    Invariant { channel with items := channel.items.filter keep } :=
  holds.of_items rfl (List.filter_sublist.map _)
    (fun item listed waiting =>
      ⟨⟨item, (List.mem_filter.mp listed).1, rfl, waiting⟩, id⟩) holds.matched

theorem Invariant.accept (holds : channel.Invariant)
    (settled : ∀ item ∈ channel.items, item.abandoned = true) (request : ρ) :
    Invariant { channel with
      tag := ⟨true, channel.now⟩
      next := channel.next + 1
      items := channel.items ++ [⟨channel.next, request, .queued, false⟩] } where
  fresh := fun item listed => by
    rcases List.mem_append.mp listed with before | new
    · exact Nat.lt_succ_of_lt (holds.fresh item before)
    · obtain rfl := List.mem_singleton.mp new
      exact Nat.lt_succ_self _
  distinct := by
    rw [map_append, nodup_append]
    refine ⟨holds.distinct, pairwise_singleton _ _, ?_⟩
    intro id listed other new same
    obtain ⟨item, before, rfl⟩ := List.mem_map.mp listed
    have number := List.mem_singleton.mp new
    have below := holds.fresh item before
    simp only at number
    omega
  held := fun item listed waiting => by
    rcases List.mem_append.mp listed with before | new
    · rw [settled item before] at waiting
      cases waiting
    · obtain rfl := List.mem_singleton.mp new
      exact ⟨rfl, rfl⟩
  matched := holds.matched

theorem Invariant.settled_of_clear (holds : channel.Invariant)
    (unflagged : channel.tag.isOutstanding = false) :
    ∀ item ∈ channel.items, item.abandoned = true := by
  intro item listed
  by_contra waiting
  rw [Bool.not_eq_true] at waiting
  have flag := (holds.held item listed waiting).1
  exact absurd (unflagged.symm.trans flag) (by decide)

/-- A request is queued when those before it were given up. -/
theorem Invariant.commit (holds : channel.Invariant)
    (settled : ∀ item ∈ channel.items, item.abandoned = true) (request : ρ) (heap full : Bool) :
    (channel.commit request heap full).1.Invariant := by
  unfold Requests.commit
  split
  · exact holds.clear settled
  split
  · exact (holds.clear settled).of_eq rfl rfl rfl rfl
  · exact holds.accept settled request

/-- `obmf_send_request` keeps the invariant: it accepts a request only when no other is under way,
or gives up the one that is. -/
theorem Invariant.sendRequest (holds : channel.Invariant) (request : ρ) (heap full : Bool) :
    (channel.sendRequest request heap full).1.Invariant := by
  unfold Requests.sendRequest
  split
  · exact holds
  split
  · exact holds
  split
  · refine (holds.abandon _).commit (fun item listed => ?_) request heap full
    by_contra waiting
    rw [Bool.not_eq_true] at waiting
    obtain ⟨before, other⟩ := mem_abandon listed waiting
    have last := (holds.held item before waiting).2
    rw [IsLast] at last
    omega
  · rename_i unflagged
    rw [Bool.not_eq_true] at unflagged
    exact holds.commit (holds.settled_of_clear unflagged) request heap full

theorem Invariant.getResponse (holds : channel.Invariant) {id : Nat} (clears : Bool)
    (own : channel.tag.isOutstanding = true → channel.IsLast id) :
    (channel.getResponse id clears).Invariant := by
  have dropped : (channel.drop id).Invariant := holds.filter _
  simp only [Requests.getResponse]
  split
  · exact dropped
  rename_i flag
  rw [Bool.not_eq_false] at flag
  have last := own flag
  have handled : Invariant { channel.drop id with
      taken := channel.taken ++ [(channel.next - 1, id)] } := by
    refine dropped.of_items rfl (List.Sublist.refl _)
      (fun item listed waiting => ⟨⟨item, listed, rfl, waiting⟩, fun flag => flag⟩) ?_
    intro pair listed
    rcases List.mem_append.mp listed with before | new
    · exact holds.matched pair before
    · obtain rfl := List.mem_singleton.mp new
      rw [IsLast] at last
      omega
  split
  · exact handled.clear (holds.settled_drop own)
  · exact handled

/-- An event that clears the flag of no other request keeps the invariant. -/
theorem invariant_step {event : RequestEvent ρ} (holds : channel.Invariant)
    (own : channel.Own event) (moved : channel.step event = some after) : after.Invariant := by
  cases event with
  | tick ms =>
    cases moved
    exact holds.of_eq rfl rfl rfl rfl
  | send request heap full =>
    cases moved
    exact holds.sendRequest request heap full
  | commit request heap full =>
    cases moved
    exact holds.commit (holds.settled_of_clear own) request heap full
  | take =>
    simp only [step, takeRequest] at moved
    split at moved
    · cases moved
      exact holds.move _ _
    · cases moved
  | sent ok =>
    simp only [step, finishSending] at moved
    split at moved
    · cases moved
    rename_i item found
    cases moved
    split
    · exact holds.move _ _
    · rename_i failed
      have dropped : (channel.drop item.id).Invariant := holds.filter _
      exact dropped.clear (holds.settled_drop fun flag =>
        own (Bool.not_eq_true _ ▸ failed) flag item found)
  | response id clears =>
    simp only [step, Option.ite_none_right_eq_some] at moved
    cases moved.2
    exact holds.getResponse clears own
  | expire id =>
    cases moved
    exact (holds.abandon id).clear (holds.settled_abandon own)
  | release =>
    cases moved
    exact holds.clear own
  | control newCtrl =>
    cases moved
    have written : Invariant { channel with enabled := decide (newCtrl &&& 0x01 ≠ 0) } :=
      holds.of_eq rfl rfl rfl rfl
    simp only [Requests.controlWrite]
    split
    · rename_i clears
      exact written.clear (own clears)
    · exact written
  | linkDown =>
    cases moved
    have purged := holds.filter fun item => decide (item.stage ≠ .queued)
    simp only [Requests.linkDown]
    split
    · rename_i enabled
      have disabled : Invariant { channel with
          items := channel.items.filter fun item => decide (item.stage ≠ .queued)
          enabled := false } := purged.of_eq rfl rfl rfl rfl
      refine disabled.clear fun item listed => ?_
      obtain ⟨before, sent⟩ := List.mem_filter.mp listed
      exact own enabled item before (of_decide_eq_true sent)
    · exact purged
  | linkUp =>
    cases moved
    exact holds.of_eq rfl rfl rfl rfl
  | busReset =>
    cases moved
    exact holds.clear own

/-- The channel has one outstanding request at most along every run in which calls do not overlap.
-/
theorem invariant_run {events : List (RequestEvent ρ)} (own : Meets step Own init events)
    (ran : run step init events = some after) : after.Invariant :=
  invariant invariant_step invariant_init own ran

theorem length_le_one {items : List (Item ρ)} {id : Nat} (distinct : (items.map (·.id)).Nodup)
    (all : ∀ item ∈ items, item.id = id) : items.length ≤ 1 := by
  match items, distinct, all with
  | [], _, _ => exact Nat.zero_le _
  | [_], _, _ => exact le_rfl
  | first :: second :: rest, distinct, all =>
    obtain ⟨apart, -⟩ := List.nodup_cons.mp distinct
    have same : first.id = second.id := (all first mem_cons_self).trans
      (all second (mem_cons_of_mem _ mem_cons_self)).symm
    exact absurd (List.mem_map.mpr ⟨second, mem_cons_self, same.symm⟩) apart

theorem Invariant.atMostOne (holds : channel.Invariant) : channel.AtMostOne := by
  refine @length_le_one ρ _ (channel.next - 1) (holds.distinct.sublist
    (List.filter_sublist.map _)) fun item listed => ?_
  obtain ⟨before, waiting⟩ := List.mem_filter.mp listed
  have last := (holds.held item before (of_decide_eq_true waiting)).2
  rw [IsLast] at last
  omega

/-! ## What a channel does on its own -/

/-- A channel on which no request was added. -/
structure Follows (channel after : Requests ρ) : Prop where
  next : after.next = channel.next
  items : ∀ item ∈ after.items, ∃ old ∈ channel.items, old.id = item.id ∧ old.request = item.request

theorem Follows.of_subset (next : after.next = channel.next)
    (subset : after.items ⊆ channel.items) :
    channel.Follows after :=
  ⟨next, fun item listed => ⟨item, subset listed, rfl, rfl⟩⟩

theorem Follows.of_map {change : Item ρ → Item ρ} (next : after.next = channel.next)
    (items : after.items = channel.items.map change) (id : ∀ item, (change item).id = item.id)
    (request : ∀ item, (change item).request = item.request) : channel.Follows after := by
  refine ⟨next, fun item listed => ?_⟩
  rw [items] at listed
  obtain ⟨old, oldListed, rfl⟩ := List.mem_map.mp listed
  exact ⟨old, oldListed, (id old).symm, (request old).symm⟩

theorem Follows.refl (channel : Requests ρ) : channel.Follows channel :=
  .of_subset rfl (List.Subset.refl _)

theorem follows_abandon (channel : Requests ρ) (id : Nat) : channel.Follows (channel.abandon id) :=
  .of_map rfl rfl (fun item => by split <;> rfl) (fun item => by split <;> rfl)

theorem follows_move (channel : Requests ρ) (id : Nat) (stage : Stage) :
    channel.Follows (channel.move id stage) :=
  .of_map rfl rfl (fun item => by split <;> rfl) (fun item => by split <;> rfl)

theorem follows_drop (channel : Requests ρ) (id : Nat) : channel.Follows (channel.drop id) :=
  .of_subset rfl (filter_subset_self _)

theorem follows_getResponse (channel : Requests ρ) (id : Nat) (clears : Bool) :
    channel.Follows (channel.getResponse id clears) := by
  have dropped := channel.follows_drop id
  simp only [Requests.getResponse]
  split
  · exact dropped
  · split <;> exact ⟨dropped.next, dropped.items⟩

/-- No request is added, and the flag is not set. -/
structure Fades (channel after : Requests ρ) : Prop extends channel.Follows after where
  flag : after.tag.isOutstanding = true → channel.tag.isOutstanding = true

theorem fades_getResponse (channel : Requests ρ) (id : Nat) (clears : Bool) :
    channel.Fades (channel.getResponse id clears) := by
  refine ⟨channel.follows_getResponse id clears, ?_⟩
  simp only [Requests.getResponse]
  split
  · exact fun flag => flag
  split
  · exact nofun
  · exact fun flag => flag

/-- What is not of a caller or a response adds no request and does not set the flag. -/
theorem fades_step {event : RequestEvent ρ} (own : event.ofChannel = true)
    (moved : channel.step event = some after) : channel.Fades after := by
  cases event with
  | tick ms =>
    cases moved
    exact ⟨.of_subset rfl (List.Subset.refl _), id⟩
  | take =>
    simp only [step, takeRequest] at moved
    split at moved
    · cases moved
      exact ⟨follows_move .., id⟩
    · cases moved
  | sent ok =>
    simp only [step, finishSending] at moved
    split at moved
    · cases moved
    · rename_i item found
      cases moved
      split
      · exact ⟨follows_move .., id⟩
      · have dropped := channel.follows_drop item.id
        exact ⟨⟨dropped.next, dropped.items⟩, nofun⟩
  | control newCtrl =>
    cases moved
    simp only [controlWrite]
    split
    · exact ⟨.of_subset rfl (List.Subset.refl _), nofun⟩
    · exact ⟨.of_subset rfl (List.Subset.refl _), id⟩
  | linkDown =>
    cases moved
    simp only [linkDown]
    split
    · exact ⟨.of_subset rfl (filter_subset_self _), nofun⟩
    · exact ⟨.of_subset rfl (filter_subset_self _), id⟩
  | linkUp =>
    cases moved
    exact ⟨.of_subset rfl (List.Subset.refl _), id⟩
  | busReset =>
    cases moved
    exact ⟨.of_subset rfl (List.Subset.refl _), nofun⟩
  | send | commit | response | expire | release => cases own

end Requests

end OpenBic.Obmf
