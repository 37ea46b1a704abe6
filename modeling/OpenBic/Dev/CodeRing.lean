import OpenBic.Library.Ring
import OpenBic.Library.Tiling

/-!
# Rings of POST codes

What `mpro.c` and `sbmr.c` do alike: codes are inserted into a ring, and pages of the latest ones are
copied out of it, newest first. The functions differ in the number of slots and in the codes.
-/

namespace OpenBic.PostCode

open List Library Library.Ring Library.Tiling

/-! ## The code -/

/-- A buffer of codes, with its length and the index of the next code. -/
structure CodeRing (α : Type) where
  buffer : Nat → α
  readLen : Nat
  readIndex : Nat

variable {α : Type}

/-- A code is put into its slot, and the index is raised. Nothing is known of a slot behind the
buffer. -/
def CodeRing.store (size : Nat) (ring : CodeRing α) (code : α) : Option (CodeRing α) :=
  if ring.readIndex < size then
    some {
      buffer := Function.update ring.buffer ring.readIndex code
      readLen := if ring.readLen < size then ring.readLen + 1 else ring.readLen
      readIndex := ring.readIndex + 1 }
  else none

def CodeRing.wrap (size : Nat) (ring : CodeRing α) : CodeRing α :=
  { ring with readIndex := if ring.readIndex = size then 0 else ring.readIndex }

def CodeRing.insert (size : Nat) (ring : CodeRing α) (code : α) : Option (CodeRing α) :=
  (ring.store size code).map (CodeRing.wrap size)

def copyLoop (size : Nat) (ring : CodeRing α) (start : Nat) : Nat → Nat → Nat → Option (List α)
  | 0, _, _ => some []
  | turns + 1, i, currentIndex =>
    if i + start < ring.readLen then
      if currentIndex < size then do
        let rest ← copyLoop size ring start turns (i + 1)
          (if currentIndex = 0 then size - 1 else currentIndex - 1)
        return ring.buffer currentIndex :: rest
      else none
    else some []

def CodeRing.currentIndex (size : Nat) (ring : CodeRing α) (start : Nat) : Nat :=
  let index : Int :=
    if start < ring.readIndex then ring.readIndex - start - 1
    else ring.readIndex + size - start - 1
  (index % 2 ^ 16).toNat

/-- The copy of a page: what is copied to the front of the buffer, in the bytes of the codes. -/
def copyReadBuffer (size codeSize : Nat) (bytesOf : α → List UInt8) (ring : CodeRing α)
    (start length bufferLen : UInt16) : Option (List UInt8) :=
  if bufferLen.toNat < length.toNat * codeSize then some []
  else (copyLoop size ring start.toNat length.toNat 0
    (ring.currentIndex size start.toNat)).map (List.flatMap bytesOf)

/-! ## What is claimed -/

def latest (size : Nat) (codes : List α) : List α := codes.reverse.take size

/-- Pages that cover the latest codes are these codes, newest first. -/
def PagesRight (size codeSize : Nat) (bytesOf : α → List UInt8)
    (copy : UInt16 → UInt16 → UInt16 → Option (List UInt8)) (codes : List α) : Prop :=
  ∀ (bufferLen : UInt16) (pieces : List (UInt16 × UInt16)) (stop : Nat),
    Tiles 0 (pieces.map fun piece => (piece.1.toNat, piece.2.toNat)) stop →
    (latest size codes).length ≤ stop →
    (∀ piece ∈ pieces, piece.2.toNat * codeSize ≤ bufferLen.toNat) →
    ∃ pages, pieces.mapM (fun piece => copy piece.1 piece.2 bufferLen) = some pages ∧
      pages.flatten = (latest size codes).flatMap bytesOf

/-! ## The ring -/

section Ring

variable {size : Nat} {ring : CodeRing α} {earlier codes : List α}

/-- The ring has the codes that were inserted since a reset, behind those from before it. -/
structure Holds (size : Nat) (earlier codes : List α) (ring : CodeRing α) : Prop where
  index : ring.readIndex = (earlier ++ codes).length % size
  len : ring.readLen = min codes.length size
  recent : Recent size (earlier ++ codes) ring.buffer

theorem holds_start (size : Nat) (buffer : Nat → α) : Holds size [] [] ⟨buffer, 0, 0⟩ :=
  ⟨(Nat.zero_mod size).symm, (Nat.zero_min size).symm, recent_nil _ _⟩

theorem Holds.reset (holds : Holds size earlier codes ring) :
    Holds size (earlier ++ codes) [] { ring with readLen := 0 } := by
  refine ⟨?_, (Nat.zero_min size).symm, ?_⟩
  · rw [append_nil]
    exact holds.index
  · rw [append_nil]
    exact holds.recent

theorem Holds.inside (holds : Holds size earlier codes ring) (slots : 0 < size) :
    ring.readIndex < size := by
  rw [holds.index]
  exact Nat.mod_lt _ slots

theorem Holds.insert (holds : Holds size earlier codes ring) (slots : 0 < size) (code : α) :
    ∃ next, ring.insert size code = some next ∧ Holds size earlier (codes ++ [code]) next := by
  have inside := holds.inside slots
  have longer : (earlier ++ (codes ++ [code])).length = (earlier ++ codes).length + 1 := by
    rw [← append_assoc]
    exact length_append
  unfold CodeRing.insert CodeRing.store
  rw [if_pos inside, Option.map_some]
  refine ⟨_, rfl, ?_, ?_, ?_⟩
  · have next := Nat.mod_add_mod (earlier ++ codes).length size 1
    rw [← holds.index] at next
    unfold CodeRing.wrap
    dsimp only
    rw [longer, ← next]
    split
    next last => rw [last, Nat.mod_self]
    next before => rw [Nat.mod_eq_of_lt (by omega)]
  · have len := holds.len
    unfold CodeRing.wrap
    dsimp only
    rw [length_append, length_singleton]
    split <;> omega
  · have put := holds.recent.put code
    rw [← append_assoc, holds.index]
    exact put

theorem wrap_eq (inside : ring.readIndex < size) : ring.wrap size = ring := by
  unfold CodeRing.wrap
  rw [if_neg (Nat.ne_of_lt inside)]

theorem length_latest (size : Nat) (codes : List α) :
    (latest size codes).length = min codes.length size := by
  rw [latest, length_take, length_reverse, Nat.min_comm]

theorem Holds.newest (holds : Holds size earlier codes ring) {place : Nat}
    (inside : place < ring.readLen) :
    (latest size codes).drop place =
      ring.buffer (((earlier ++ codes).length - 1 - place) % size) ::
        (latest size codes).drop (place + 1) := by
  rw [holds.len, Nat.lt_min] at inside
  have within : place < (earlier ++ codes).length := by
    rw [length_append]
    omega
  have found := holds.recent.newest place inside.2 within
  rw [reverse_append, getElem?_append_left (by rw [length_reverse]; omega)] at found
  have there : (latest size codes)[place]? = some (ring.buffer
      (((earlier ++ codes).length - 1 - place) % size)) := by
    rw [latest, getElem?_take, if_pos inside.2, found]
  obtain ⟨within, same⟩ := List.getElem?_eq_some_iff.mp there
  rw [← same]
  exact drop_eq_getElem_cons within

/-- The loop copies the codes from its place on. -/
theorem Holds.copyLoop (holds : Holds size earlier codes ring) (start turns i currentIndex : Nat)
    (place : i + start < ring.readLen →
      currentIndex = ((earlier ++ codes).length - 1 - (i + start)) % size) :
    copyLoop size ring start turns i currentIndex =
      some (((latest size codes).drop (i + start)).take turns) := by
  induction turns generalizing i currentIndex with
  | zero => rfl
  | succ turns ih =>
    rw [PostCode.copyLoop]
    by_cases inside : i + start < ring.readLen
    · have here := place inside
      have len := holds.len
      have slots : 0 < size := by omega
      have within : currentIndex < size := by
        rw [here]
        exact Nat.mod_lt _ slots
      have longer : codes.length ≤ (earlier ++ codes).length := by
        rw [length_append]
        omega
      have onward := ih (i + 1) (if currentIndex = 0 then size - 1 else currentIndex - 1) (by
        intro more
        have last : (earlier ++ codes).length - 1 - (i + start) =
            (earlier ++ codes).length - 1 - (i + 1 + start) + 1 := by omega
        rw [here, last]
        rcases Nat.eq_or_lt_of_le (Nat.succ_le_of_lt (Nat.mod_lt
          ((earlier ++ codes).length - 1 - (i + 1 + start)) slots)) with wraps | goes
        · change ((earlier ++ codes).length - 1 - (i + 1 + start)) % size + 1 = size at wraps
          have zero : ((earlier ++ codes).length - 1 - (i + 1 + start) + 1) % size = 0 := by
            rw [← Nat.mod_add_mod, wraps, Nat.mod_self]
          rw [zero, if_pos rfl]
          omega
        · have next : ((earlier ++ codes).length - 1 - (i + 1 + start) + 1) % size =
              ((earlier ++ codes).length - 1 - (i + 1 + start)) % size + 1 := by
            rw [← Nat.mod_add_mod, Nat.mod_eq_of_lt goes]
          rw [next, if_neg (Nat.succ_ne_zero _), Nat.add_sub_cancel])
      rw [if_pos inside, if_pos within, onward, holds.newest inside, take_succ_cons, here,
        Nat.add_right_comm]
      rfl
    · rw [if_neg inside, drop_eq_nil_of_le, take_nil]
      rw [length_latest, ← holds.len]
      exact Nat.le_of_not_lt inside

/-- A page has the codes from its start on. -/
theorem Holds.copyReadBuffer (holds : Holds size earlier codes ring) (few : size < 2 ^ 15)
    {codeSize : Nat} (bytesOf : α → List UInt8) {start length bufferLen : UInt16}
    (fits : length.toNat * codeSize ≤ bufferLen.toNat) :
    copyReadBuffer size codeSize bytesOf ring start length bufferLen =
      some ((((latest size codes).drop start.toNat).take length.toNat).flatMap bytesOf) := by
  unfold PostCode.copyReadBuffer
  rw [if_neg (Nat.not_lt_of_le fits)]
  have copied := holds.copyLoop start.toNat length.toNat 0 (ring.currentIndex size start.toNat)
  rw [Nat.zero_add] at copied
  rw [copied, Option.map_some]
  intro inside
  have len := holds.len
  have longer : codes.length ≤ (earlier ++ codes).length := by
    rw [length_append]
    omega
  have level := Nat.div_add_mod ((earlier ++ codes).length) size
  have part := Nat.mod_lt ((earlier ++ codes).length) (show 0 < size by omega)
  rw [← holds.index] at level part
  -- The slot is the one before the index, and before the first slot comes the last one.
  have slot : (earlier ++ codes).length - 1 - start.toNat =
      (if start.toNat < ring.readIndex then ring.readIndex - start.toNat - 1
        else ring.readIndex + size - start.toNat - 1) +
      size * ((earlier ++ codes).length / size -
        if start.toNat < ring.readIndex then 0 else 1) := by
    split
    next before => rw [Nat.sub_zero]; omega
    next behind =>
      rcases Nat.eq_zero_or_pos ((earlier ++ codes).length / size) with none | some
      · rw [none, Nat.mul_zero] at level
        omega
      · rw [Nat.mul_sub, Nat.mul_one]
        have one := Nat.mul_le_mul_left size some
        omega
  rw [slot, Nat.add_mul_mod_self_left]
  unfold CodeRing.currentIndex
  dsimp only
  split
  next before =>
    rw [Nat.mod_eq_of_lt (by omega)]
    omega
  next behind =>
    rw [Nat.mod_eq_of_lt (by omega)]
    omega

theorem Holds.pages (holds : Holds size earlier codes ring) (few : size < 2 ^ 15) (codeSize : Nat)
    (bytesOf : α → List UInt8) :
    PagesRight size codeSize bytesOf (PostCode.copyReadBuffer size codeSize bytesOf ring) codes := by
  intro bufferLen pieces stop tiles all fits
  have whole : ((latest size codes).drop 0).take (stop - 0) = latest size codes := by
    rw [drop_zero, Nat.sub_zero, take_of_length_le all]
  rw [← congrArg (List.flatMap bytesOf) whole]
  exact tiles.mapM (List.flatMap bytesOf) rfl (fun _ _ => flatMap_append)
    fun piece listed => holds.copyReadBuffer few bytesOf (fits piece listed)

end Ring

end OpenBic.PostCode
